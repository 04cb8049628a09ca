import Codemod.Config.File
import Mathlib.Data.Option.Basic

/-!
# What a configuration file may hold

A file gives a configuration if it is a mapping with known keys, all of which may be left out: lists of
texts that are not empty, a list of endings, and a whole number of passes. The check finds nothing wrong
with exactly these mappings, and it reads from them the values that they hold.
-/
namespace Codemod.Config

/-- A list of texts that keep to a rule. -/
def Texts (rule : String → Prop) (value : Value) (texts : List String) : Prop :=
  value = .list (texts.map .string) ∧ ∀ text ∈ texts, rule text

/-- A dot and at least one letter or digit of ASCII, and nothing else. -/
def Ending (text : String) : Prop :=
  ∃ rest, text.toList = '.' :: rest ∧ rest ≠ [] ∧ ∀ c ∈ rest, c.isAlphanum = true

/-- A whole number of passes from one to a hundred. -/
def Passes (value : Value) (passes : Nat) : Prop :=
  ∃ number, value = .number number ∧ number.toInt? = some (passes : Int) ∧ 1 ≤ passes ∧ passes ≤ 100

/-- The entries of a mapping give the values of a layer, and there are no others. -/
structure Conforms (entries : List (String × Value)) (layer : Layer) : Prop where
  known : ∀ entry ∈ entries, entry.1 ∈ ["fixes", "extensions", "ignore", "maxPasses"]
  fixes : Option.Rel (Texts (· ≠ "")) (entries.lookup "fixes") layer.fixes
  extensions : Option.Rel (Texts Ending) (entries.lookup "extensions") layer.extensions
  ignore : Option.Rel (Texts (· ≠ "")) (entries.lookup "ignore") layer.ignore
  maxPasses : Option.Rel Passes (entries.lookup "maxPasses") layer.maxPasses

/-- A check finds nothing wrong with exactly the values that mean something, and reads what they mean. -/
def Decides {α : Type} (check : String → Value → Checked α) (means : Value → α → Prop) : Prop :=
  ∀ key value result, check key value = ([], result) ↔ means value result

/-- What a rule for texts asks for. -/
def TextRule.Holds : TextRule → String → Prop
  | .nonempty => (· ≠ "")
  | .ending => Ending

/-- The test for endings finds those that are allowed. -/
theorem is_ending_iff (text : String) : isEnding text = true ↔ Ending text := by
  rw [isEnding]
  split
  · rename_i rest spelled
    simp [Ending, spelled]
  · rename_i other
    refine iff_of_false Bool.false_ne_true ?_
    rintro ⟨rest, spelled, _⟩
    exact other _ spelled

/-- A text is complained about under a rule exactly if it breaks it. Each rule has one complaint, made
exactly where the text does not pass its test. -/
theorem complaint_eq_none_iff (rule : TextRule) (text : String) :
    rule.complaint? text = none ↔ rule.Holds text := by
  cases rule with
  | nonempty =>
    by_cases empty : text = ""
    · simp [TextRule.complaint?, TextRule.Holds, empty]
    · simp [TextRule.complaint?, TextRule.Holds, empty]
  | ending =>
    rw [TextRule.Holds, ← is_ending_iff]
    cases ending : isEnding text with
    | true => simp [TextRule.complaint?, ending]
    | false => simp [TextRule.complaint?, ending]

/-- A list is right if each member is, whatever the place of a member adds to what is wrong with it. The
induction is on the list, with the check moved on by one place at each step. -/
theorem flat_map_idx (rule : String → Prop) {check : Nat → Value → Checked (List String)}
    (each : ∀ index item read,
      check index item = ([], read) ↔ ∃ text, item = .string text ∧ rule text ∧ read = [text])
    (items : List Value) (texts : List String) :
    (((items.mapIdx check).flatMap (·.1), (items.mapIdx check).flatMap (·.2)) = ([], texts)) ↔
      items = texts.map .string ∧ ∀ text ∈ texts, rule text := by
  simp only [Prod.mk.injEq]
  induction items generalizing check texts with
  | nil =>
    constructor
    · rintro ⟨_, rfl⟩
      exact ⟨rfl, fun _ none => absurd none List.not_mem_nil⟩
    · rintro ⟨same, _⟩
      exact ⟨rfl, (List.map_eq_nil_iff.mp same.symm).symm⟩
  | cons item items inductionHypothesis =>
    have rest := inductionHypothesis (fun index => each (index + 1))
    rw [List.mapIdx_cons, List.flatMap_cons, List.flatMap_cons, List.append_eq_nil_iff]
    constructor
    · rintro ⟨⟨right, others⟩, rfl⟩
      obtain ⟨text, rfl, holds, read⟩ := (each 0 item (check 0 item).2).mp (Prod.ext right rfl)
      obtain ⟨same, hold⟩ := (rest _).mp ⟨others, rfl⟩
      rw [read, List.singleton_append]
      exact ⟨congrArg _ same, List.forall_mem_cons.mpr ⟨holds, hold⟩⟩
    · rintro ⟨same, hold⟩
      obtain ⟨text, texts, rfl⟩ : ∃ text others, texts = text :: others := by
        cases texts with
        | nil => cases same
        | cons text texts => exact ⟨text, texts, rfl⟩
      obtain ⟨rfl, rfl⟩ := List.cons.inj same
      obtain ⟨holds, hold⟩ := List.forall_mem_cons.mp hold
      have first := (each 0 _ [text]).mpr ⟨text, rfl, holds, rfl⟩
      obtain ⟨others, read⟩ := (rest texts).mpr ⟨rfl, hold⟩
      rw [first]
      exact ⟨⟨rfl, others⟩, congrArg _ read⟩

/-- The check of a list of texts. Each item is checked at its own index; the list is right if none of
them is complained about. -/
theorem check_texts_decides (rule : TextRule) : Decides (checkTexts rule) (Texts rule.Holds) := by
  intro key value texts
  cases value with
  | list items =>
    rw [checkTexts, flat_map_idx rule.Holds]
    · simp [Texts]
    · intro index item read
      cases item with
      | string text =>
        cases complaint : rule.complaint? text with
        | none =>
          have := (complaint_eq_none_iff rule text).mp complaint
          simp [complaint, this, eq_comm]
        | some message =>
          have := mt (complaint_eq_none_iff rule text).mpr (by simp [complaint])
          simp [complaint, this]
      | _ => simp
  | _ => simp [checkTexts, Texts]

/-- A whole number, of which the mantissa is the size but for a power of two. For a power below one the
division has to leave nothing. -/
theorem size_of_to_int {negative : Bool} {m : Nat} {q whole : Int}
    (exact : (Binary64.finite negative m q).toInt? = some whole) :
    ∃ size : Nat, (if negative then -(size : Int) else size) = whole ∧
      if q ≥ 0 then m * Nat.pow 2 q.toNat = size else m = size * Nat.pow 2 (-q).toNat := by
  simp only [Binary64.toInt?, Option.map_eq_some_iff, Option.pure_def, Option.bind_eq_bind,
    Option.bind_eq_some_iff, Option.some.injEq] at exact
  obtain ⟨_, ⟨size, measured, rfl⟩, signed⟩ := exact
  refine ⟨size, signed, ?_⟩
  by_cases above : q ≥ 0
  · rw [if_pos above] at measured ⊢
    exact Option.some.inj measured
  · rw [if_neg above] at measured ⊢
    split at measured
    · rename_i divides
      rw [← Option.some.inj measured]
      exact (Nat.div_mul_cancel (Nat.dvd_of_mod_eq_zero divides)).symm
    · cases measured

/-- A whole number is below or above a bound as its size and sign say. The bound is compared with the
mantissa, scaled by the power of two that the exponent says, and so is the whole number. -/
theorem bounds_of_to_int {number : Binary64} {whole : Int} (exact : number.toInt? = some whole)
    (bound : Nat) :
    (isBelow number bound = true ↔ whole < bound) ∧
      (isAbove number bound = true ↔ (bound : Int) < whole) := by
  cases number with
  | nan => cases exact
  | infinite negative => cases exact
  | finite negative m q =>
    obtain ⟨size, rfl, spelled⟩ := size_of_to_int exact
    have unit : Nat.pow 2 (-q).toNat ≠ 0 := Nat.ne_of_gt (Nat.two_pow_pos _)
    have scale : Nat.pow 2 q.toNat ≠ 0 := Nat.ne_of_gt (Nat.two_pow_pos _)
    rw [isBelow, isAbove]
    -- A negative number is compared by its sign alone, and zero may have that sign too.
    cases negative with
    | true =>
      have nothing : m = 0 ↔ size = 0 := by
        split at spelled
        · rw [← spelled, Nat.mul_eq_zero, or_iff_left scale]
        · rw [spelled, Nat.mul_eq_zero, or_iff_left unit]
      simp only [if_true, Bool.or_eq_true, decide_eq_true_iff, Bool.false_eq_true, false_iff]
      omega
    | false =>
      simp only [Bool.false_eq_true, if_false]
      split at spelled
      · rename_i above
        rw [if_pos above, if_pos above, spelled]
        simp
      · rename_i above
        rw [if_neg above, if_neg above, spelled]
        simp only [gt_iff_lt, decide_eq_true_iff, Nat.mul_lt_mul_right (Nat.pos_of_ne_zero unit),
          Int.ofNat_lt, and_self]

/-- The check of a number of passes. A number is complained about if it is not whole, below one or above
the greatest one; the three exclude each other. -/
theorem check_passes_decides : Decides checkPasses Passes := by
  intro key value passes
  cases value with
  | number number =>
    cases whole : number.toInt? with
    | none =>
      cases number <;> simp [checkPasses, Passes, whole]
    | some n =>
      obtain ⟨below, _⟩ := bounds_of_to_int whole 1
      obtain ⟨_, above⟩ := bounds_of_to_int whole maxFilePasses
      cases number with
      | nan => cases whole
      | _ =>
        have greatest : maxFilePasses = 100 := rfl
        simp [checkPasses, Passes, whole, below, above]
        omega
  | _ => simp [checkPasses, Passes]

variable {α : Type} (entries : List (String × Value))

/-- The check of a key that may be left out. A key that is not there is right and gives nothing; one that
is there is checked as its value is. -/
theorem check_key_iff {check : String → Value → Checked α} {means : Value → α → Prop}
    (decides : Decides check means) (key : String) (result : Option α) :
    checkKey entries key check = ([], result) ↔ Option.Rel means (entries.lookup key) result := by
  rw [checkKey]
  cases entries.lookup key with
  | none =>
    constructor
    · rintro ⟨⟩
      exact .none
    · rintro ⟨⟩
      rfl
  | some value =>
    constructor
    · intro right
      obtain ⟨nothing, rfl⟩ := Prod.ext_iff.mp right
      exact .some ((decides key value _).mp (Prod.ext nothing rfl))
    · rintro ⟨meaning⟩
      exact congrArg (fun read : Checked α => (read.1, some read.2)) ((decides key value _).mpr meaning)

/-- Going through keys in order leaves none out and adds none. Those that spell a number come first,
sorted by it, and the others follow as they were given. -/
theorem mem_ordered_keys {keys : List String} {key : String} :
    key ∈ Yaml.orderedKeys keys ↔ key ∈ keys := by
  rw [Yaml.orderedKeys, List.mem_append, ((List.mergeSort_perm _ _).map _).mem_iff]
  constructor
  · rintro (place | other)
    · obtain ⟨entry, placed, rfl⟩ := List.mem_map.mp place
      obtain ⟨given, there, number⟩ := List.mem_filterMap.mp placed
      obtain ⟨_, _, rfl⟩ := Option.map_eq_some_iff.mp number
      exact there
    · exact (List.mem_filter.mp other).1
  · intro there
    cases place : Yaml.placeNumber? key with
    | none => exact .inr (List.mem_filter.mpr ⟨there, Option.isNone_iff_eq_none.mpr place⟩)
    | some n => exact .inl (List.mem_map.mpr
        ⟨(n, key), List.mem_filterMap.mpr ⟨key, there, congrArg _ place⟩, rfl⟩)

/-- No key is unknown exactly if each is one that a file may have. -/
theorem unknown_keys_eq_nil_iff : unknownKeys entries = [] ↔ ∀ entry ∈ entries, entry.1 ∈ fileKeys := by
  have none : (Yaml.orderedKeys (entries.map (·.1))).filter (!fileKeys.contains ·) = [] ↔
      ∀ entry ∈ entries, entry.1 ∈ fileKeys := by
    simp [List.filter_eq_nil_iff, mem_ordered_keys]
  rw [← none, unknownKeys]
  split
  · rename_i nothing
    exact iff_of_true rfl nothing
  · rename_i something
    exact iff_of_false (by simp) something

/-- The check of a mapping finds nothing wrong, and reads a layer, exactly if the mapping conforms to the
schema as that layer: each of the four keys is checked by itself, and other keys are not allowed. -/
theorem check_entries_iff (layer : Layer) : checkEntries entries = ([], layer) ↔ Conforms entries layer := by
  have fixes := check_key_iff entries (check_texts_decides .nonempty) "fixes" layer.fixes
  have extensions := check_key_iff entries (check_texts_decides .ending) "extensions" layer.extensions
  have ignore := check_key_iff entries (check_texts_decides .nonempty) "ignore" layer.ignore
  have passes := check_key_iff entries check_passes_decides "maxPasses" layer.maxPasses
  have known := unknown_keys_eq_nil_iff entries
  simp only [Prod.ext_iff] at fixes extensions ignore passes
  simp only [checkEntries, Prod.ext_iff, List.append_eq_nil_iff]
  constructor
  · rintro ⟨⟨⟨⟨⟨fixesRight, extensionsRight⟩, ignoreRight⟩, passesRight⟩, knownRight⟩, rfl⟩
    exact
      { known := known.mp knownRight
        fixes := fixes.mp ⟨fixesRight, rfl⟩
        extensions := extensions.mp ⟨extensionsRight, rfl⟩
        ignore := ignore.mp ⟨ignoreRight, rfl⟩
        maxPasses := passes.mp ⟨passesRight, rfl⟩ }
  · intro conforms
    obtain ⟨fixesRight, fixesRead⟩ := fixes.mpr conforms.fixes
    obtain ⟨extensionsRight, extensionsRead⟩ := extensions.mpr conforms.extensions
    obtain ⟨ignoreRight, ignoreRead⟩ := ignore.mpr conforms.ignore
    obtain ⟨passesRight, passesRead⟩ := passes.mpr conforms.maxPasses
    refine ⟨⟨⟨⟨⟨fixesRight, extensionsRight⟩, ignoreRight⟩, passesRight⟩, known.mpr conforms.known⟩, ?_⟩
    cases layer
    exact congr (congr (congr (congrArg Layer.mk fixesRead) extensionsRead) ignoreRead) passesRead

/-- The check of the value of a file, which gives nothing when it is empty. Any value that is neither
empty nor a record is refused. -/
theorem check_value_iff {value : Value} {layer : Layer} :
    checkValue value = .ok layer ↔
      (value = .null ∧ layer = {}) ∨ ∃ entries, value = .record entries ∧ Conforms entries layer := by
  cases value with
  | null => simp [checkValue, eq_comm]
  | record entries =>
    simp only [checkValue, ← check_entries_iff]
    split
    · rename_i right
      simp [right]
    · rename_i wrong checked
      refine iff_of_false nofun ?_
      rintro (⟨⟨⟩, _⟩ | ⟨_, ⟨⟩, right⟩)
      exact wrong (congrArg Prod.fst (checked.symm.trans right))
  | _ => simp [checkValue]

end Codemod.Config
