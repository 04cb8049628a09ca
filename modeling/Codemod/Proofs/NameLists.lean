import Codemod.Naming.NameList
import Codemod.Proofs.Trimming

/-!
# Lists of names and their texts

A text lists names when it holds them with commas between them, and blanks and further commas wherever
these stand around names and commas. Reading takes from it the names, all of them and in their order,
and it takes nothing from a text that it does not list.
-/
namespace Codemod.Naming

open Text

/-- A name as a list can hold it: it is not empty, no comma divides it, and no blank begins or ends it. -/
structure IsName (name : String) : Prop where
  nonempty : name ≠ ""
  undivided : ',' ∉ name.toList
  trimmed : Trimmed name.toList

/-- A name is a text that is not empty, holds no comma, and neither begins nor ends with a blank. -/
theorem is_name_iff {name : String} :
    IsName name ↔ name ≠ "" ∧ ',' ∉ name.toList ∧ Trimmed name.toList :=
  ⟨fun ⟨nonempty, undivided, trimmed⟩ => ⟨nonempty, undivided, trimmed⟩,
    fun ⟨nonempty, undivided, trimmed⟩ => ⟨nonempty, undivided, trimmed⟩⟩

instance (name : String) : Decidable (IsName name) :=
  decidable_of_iff _ is_name_iff.symm

/-- Characters that may stand around names and commas. -/
def IsPadding (chars : List Char) : Prop :=
  ∀ c ∈ chars, isBlank c = true ∨ c = ','

instance (chars : List Char) : Decidable (IsPadding chars) :=
  List.decidableBAll (fun c => isBlank c = true ∨ c = ',') chars

/-- A text lists names: none, a single one, or those of two texts with a comma between them; padding
may stand around any of these. -/
inductive Lists : List String → List Char → Prop where
  | nothing : Lists [] []
  | single (name : String) : Lists [name] name.toList
  | joined {left right : List String} {front back : List Char} (first : Lists left front)
      (second : Lists right back) : Lists (left ++ right) (front ++ ',' :: back)
  | padded {names : List String} {before chars after : List Char} (paddingBefore : IsPadding before)
      (paddingAfter : IsPadding after) (inside : Lists names chars) :
      Lists names (before ++ chars ++ after)

/-- The names that are read from characters. -/
def namesIn (chars : List Char) : List (List Char) :=
  ((splitList ',' chars).map trimList).filter fun name => !name.isEmpty

/-- Reading names from a text is reading them from its characters. -/
theorem parse_names_eq (value : String) :
    parseNames value = (namesIn value.toList).map String.ofList := by
  have empty (chars : List Char) : (String.ofList chars).isEmpty = chars.isEmpty := by
    cases chars <;> simp
  simp [parseNames, namesIn, split, trim, List.filter_map, Function.comp_def, empty]

/-- The names in a text with a comma are those before the comma and those after it. -/
theorem names_in_append (front back : List Char) :
    namesIn (front ++ ',' :: back) = namesIn front ++ namesIn back := by
  rw [namesIn, split_list_append, List.map_append, List.filter_append]
  rfl

/-- What stands in a piece by itself is a name, unless nothing is left of it. -/
theorem names_in_plain {chars : List Char} (plain : ',' ∉ chars) :
    namesIn chars = if (trimList chars).isEmpty then [] else [trimList chars] := by
  rw [namesIn, split_list_plain plain]
  cases nothing : (trimList chars).isEmpty <;> simp [nothing]

/-- Padding at the start makes no difference to the names. The induction is on the padding: a comma makes
an empty piece, and a blank goes to the piece that follows. -/
theorem names_in_padding {padding : List Char} (isPadding : IsPadding padding) (chars : List Char) :
    namesIn (padding ++ chars) = namesIn chars := by
  induction padding with
  | nil => rfl
  | cons c padding inductionHypothesis =>
    obtain ⟨first, rest⟩ := List.forall_mem_cons.mp isPadding
    rw [← inductionHypothesis rest, List.cons_append]
    by_cases isComma : c = ','
    · rw [isComma]
      exact names_in_append [] (padding ++ chars)
    · obtain ⟨piece, pieces, divided⟩ := split_list_cons ',' (padding ++ chars)
      rw [namesIn, split_list_step isComma divided, namesIn, divided, List.map_cons, List.map_cons,
        trim_list_cons (first.resolve_right isComma)]

/-- Padding at the end makes no difference to the names. The induction is on the padding from its end, as
at the start. -/
theorem names_in_padding_after {padding : List Char} (isPadding : IsPadding padding)
    (chars : List Char) : namesIn (chars ++ padding) = namesIn chars := by
  induction padding generalizing chars with
  | nil => rw [List.append_nil]
  | cons c padding inductionHypothesis =>
    obtain ⟨first, rest⟩ := List.forall_mem_cons.mp isPadding
    rw [List.append_cons, inductionHypothesis rest]
    by_cases isComma : c = ','
    · rw [isComma, names_in_append]
      exact List.append_nil _
    · obtain ⟨pieces, piece, without, added⟩ := split_list_concat isComma chars
      rw [namesIn, namesIn, without, added, List.map_append, List.map_append, List.map_cons,
        List.map_cons, trim_list_concat (first.resolve_right isComma)]

/-- A name by itself is read as it is. -/
theorem names_in_name {name : String} (isName : IsName name) :
    namesIn name.toList = [name.toList] := by
  rw [names_in_plain isName.undivided, trim_list_of_trimmed isName.trimmed, if_neg]
  simpa using isName.nonempty

/-- All names that a text lists are read from it, in their order. The induction is on the way in which
the text lists them. -/
theorem names_of_lists {names : List String} {chars : List Char} (listed : Lists names chars)
    (areNames : ∀ name ∈ names, IsName name) : (namesIn chars).map String.ofList = names := by
  induction listed with
  | nothing => rfl
  | single name =>
    rw [names_in_name (areNames name List.mem_cons_self)]
    simp
  | joined first second leftRead rightRead =>
    rw [List.forall_mem_append] at areNames
    rw [names_in_append, List.map_append, leftRead areNames.1, rightRead areNames.2]
  | padded paddingBefore paddingAfter inside read =>
    rw [names_in_padding_after paddingAfter, names_in_padding paddingBefore, read areNames]

/-- A piece without a comma lists what is read from it. It is one name with blanks around it, or blanks
only. -/
theorem lists_plain {chars : List Char} (plain : ',' ∉ chars) :
    Lists ((namesIn chars).map String.ofList) chars := by
  obtain ⟨before, after, whole, blankBefore, blankAfter⟩ := trim_list_cases chars
  have inside : Lists ((namesIn chars).map String.ofList) (trimList chars) := by
    rw [names_in_plain plain]
    split
    · rename_i nothing
      rw [List.isEmpty_iff.mp nothing]
      exact .nothing
    · simpa using Lists.single (String.ofList (trimList chars))
  have padded : Lists ((namesIn chars).map String.ofList) (before ++ trimList chars ++ after) :=
    .padded (fun c there => .inl (blankBefore c there)) (fun c there => .inl (blankAfter c there)) inside
  rwa [← whole] at padded

/-- Every text lists what is read from it. The induction is on its length, and takes it apart at its
first comma. -/
theorem lists_names (chars : List Char) : Lists ((namesIn chars).map String.ofList) chars := by
  by_cases divided : ',' ∈ chars
  · obtain ⟨front, back, whole, plain⟩ := List.eq_append_cons_of_mem divided
    have shorter : back.length < chars.length := by
      rw [whole, List.length_append, List.length_cons]
      omega
    rw [whole, names_in_append, List.map_append]
    exact .joined (lists_plain plain) (lists_names back)
  · exact lists_plain divided
termination_by chars.length

/-- Whatever is read from a text is a name. It was trimmed, it is not empty, and it comes from a piece
between two commas. -/
theorem is_name_of_read {chars name : List Char} (read : name ∈ namesIn chars) :
    IsName (String.ofList name) := by
  obtain ⟨among, nonempty⟩ := List.mem_filter.mp read
  obtain ⟨piece, there, rfl⟩ := List.mem_map.mp among
  obtain ⟨before, after, whole, _⟩ := trim_list_cases piece
  refine ⟨?_, ?_, ?_⟩
  · simpa using nonempty
  · rw [String.toList_ofList]
    intro inName
    apply split_list_undivided ',' chars piece there
    rw [whole]
    simp [inName]
  · rw [String.toList_ofList]
    exact trimmed_trim piece

/-- Names with commas between them are a text that lists them. -/
theorem lists_join (names : List String) : Lists names (",".intercalate names).toList := by
  induction names with
  | nil => simpa using Lists.nothing
  | cons name names inductionHypothesis =>
    cases names with
    | nil => simpa using Lists.single name
    | cons next names =>
      rw [String.intercalate_cons_of_ne_nil (List.cons_ne_nil next names)]
      simpa using Lists.joined (.single name) inductionHypothesis

/-- The names that are read from a text are exactly the names that it lists. -/
theorem parse_names_iff {value : String} {names : List String} :
    parseNames value = names ↔ (∀ name ∈ names, IsName name) ∧ Lists names value.toList := by
  rw [parse_names_eq]
  constructor
  · rintro rfl
    refine ⟨?_, lists_names value.toList⟩
    rw [List.forall_mem_map]
    exact fun name read => is_name_of_read read
  · rintro ⟨areNames, listed⟩
    exact names_of_lists listed areNames

/-- Names that are written as a list, with any padding around names and commas, are read back as they
were; and from whatever text names are read, they can stand in a list, and reading them again from
their bare list gives the same names. -/
theorem names_round_trip :
    (∀ (names : List String) (value : String), (∀ name ∈ names, IsName name) →
      Lists names value.toList → parseNames value = names) ∧
    ∀ value : String, (∀ name ∈ parseNames value, IsName name) ∧
      parseNames (",".intercalate (parseNames value)) = parseNames value := by
  refine ⟨fun names value areNames listed => parse_names_iff.mpr ⟨areNames, listed⟩, fun value => ?_⟩
  obtain ⟨areNames, _⟩ := parse_names_iff.mp (rfl : parseNames value = _)
  exact ⟨areNames, parse_names_iff.mpr ⟨areNames, lists_join _⟩⟩

/-- Blanks of several kinds, a byte order mark among them, and further commas make no difference. The
padding is given piece by piece, as the relation of lists of names has it. -/
theorem padded_names_round_trip :
    (∀ name ∈ ["net-dial", "a b"], IsName name) ∧
      Lists ["net-dial", "a b"] "\t, net-dial \u00a0,\ufeff,a b\n,".toList ∧
      parseNames "\t, net-dial \u00a0,\ufeff,a b\n," = ["net-dial", "a b"] := by
  have first : Lists ["net-dial"] ("\t, ".toList ++ "net-dial".toList ++ " \u00a0".toList) :=
    .padded (by decide) (by decide) (.single "net-dial")
  have second : Lists ["a b"] ("\ufeff,".toList ++ "a b".toList ++ "\n,".toList) :=
    .padded (by decide) (by decide) (.single "a b")
  have listed : Lists ["net-dial", "a b"] "\t, net-dial \u00a0,\ufeff,a b\n,".toList :=
    .joined first second
  have areNames : ∀ name ∈ ["net-dial", "a b"], IsName name := by decide
  exact ⟨areNames, listed, names_round_trip.1 _ _ areNames listed⟩

end Codemod.Naming
