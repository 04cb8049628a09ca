/-!
# Categories of characters

The general categories of the Unicode standard that named classes of characters
are made of. A category is a table of runs in increasing order; a run has a first
and a last code and the step between its codes, which is two where capital and
small letters alternate.
-/
namespace Codemod.Text

/-- The letters of every kind. -/
def letterRuns : Array (Nat × Nat × Nat) := #[
  (65, 90, 1), (97, 122, 1), (170, 170, 1), (181, 181, 1), (186, 186, 1), (192, 214, 1),
  (216, 246, 1), (248, 705, 1), (710, 721, 1), (736, 740, 1), (748, 748, 1), (750, 750, 1),
  (880, 884, 1), (886, 887, 1), (890, 893, 1), (895, 895, 1), (902, 902, 1), (904, 906, 1),
  (908, 908, 1), (910, 929, 1), (931, 1013, 1), (1015, 1153, 1), (1162, 1327, 1), (1329, 1366, 1),
  (1369, 1369, 1), (1376, 1416, 1), (1488, 1514, 1), (1519, 1522, 1), (1568, 1610, 1),
  (1646, 1647, 1), (1649, 1747, 1), (1749, 1749, 1), (1765, 1766, 1), (1774, 1775, 1),
  (1786, 1788, 1), (1791, 1791, 1), (1808, 1808, 1), (1810, 1839, 1), (1869, 1957, 1),
  (1969, 1969, 1), (1994, 2026, 1), (2036, 2037, 1), (2042, 2042, 1), (2048, 2069, 1),
  (2074, 2074, 1), (2084, 2084, 1), (2088, 2088, 1), (2112, 2136, 1), (2144, 2154, 1),
  (2160, 2183, 1), (2185, 2191, 1), (2208, 2249, 1), (2308, 2361, 1), (2365, 2365, 1),
  (2384, 2384, 1), (2392, 2401, 1), (2417, 2432, 1), (2437, 2444, 1), (2447, 2448, 1),
  (2451, 2472, 1), (2474, 2480, 1), (2482, 2482, 1), (2486, 2489, 1), (2493, 2493, 1),
  (2510, 2510, 1), (2524, 2525, 1), (2527, 2529, 1), (2544, 2545, 1), (2556, 2556, 1),
  (2565, 2570, 1), (2575, 2576, 1), (2579, 2600, 1), (2602, 2608, 1), (2610, 2611, 1),
  (2613, 2614, 1), (2616, 2617, 1), (2649, 2652, 1), (2654, 2654, 1), (2674, 2676, 1),
  (2693, 2701, 1), (2703, 2705, 1), (2707, 2728, 1), (2730, 2736, 1), (2738, 2739, 1),
  (2741, 2745, 1), (2749, 2749, 1), (2768, 2768, 1), (2784, 2785, 1), (2809, 2809, 1),
  (2821, 2828, 1), (2831, 2832, 1), (2835, 2856, 1), (2858, 2864, 1), (2866, 2867, 1),
  (2869, 2873, 1), (2877, 2877, 1), (2908, 2909, 1), (2911, 2913, 1), (2929, 2929, 1),
  (2947, 2947, 1), (2949, 2954, 1), (2958, 2960, 1), (2962, 2965, 1), (2969, 2970, 1),
  (2972, 2972, 1), (2974, 2975, 1), (2979, 2980, 1), (2984, 2986, 1), (2990, 3001, 1),
  (3024, 3024, 1), (3077, 3084, 1), (3086, 3088, 1), (3090, 3112, 1), (3114, 3129, 1),
  (3133, 3133, 1), (3160, 3162, 1), (3164, 3165, 1), (3168, 3169, 1), (3200, 3200, 1),
  (3205, 3212, 1), (3214, 3216, 1), (3218, 3240, 1), (3242, 3251, 1), (3253, 3257, 1),
  (3261, 3261, 1), (3292, 3294, 1), (3296, 3297, 1), (3313, 3314, 1), (3332, 3340, 1),
  (3342, 3344, 1), (3346, 3386, 1), (3389, 3389, 1), (3406, 3406, 1), (3412, 3414, 1),
  (3423, 3425, 1), (3450, 3455, 1), (3461, 3478, 1), (3482, 3505, 1), (3507, 3515, 1),
  (3517, 3517, 1), (3520, 3526, 1), (3585, 3632, 1), (3634, 3635, 1), (3648, 3654, 1),
  (3713, 3714, 1), (3716, 3716, 1), (3718, 3722, 1), (3724, 3747, 1), (3749, 3749, 1),
  (3751, 3760, 1), (3762, 3763, 1), (3773, 3773, 1), (3776, 3780, 1), (3782, 3782, 1),
  (3804, 3807, 1), (3840, 3840, 1), (3904, 3911, 1), (3913, 3948, 1), (3976, 3980, 1),
  (4096, 4138, 1), (4159, 4159, 1), (4176, 4181, 1), (4186, 4189, 1), (4193, 4193, 1),
  (4197, 4198, 1), (4206, 4208, 1), (4213, 4225, 1), (4238, 4238, 1), (4256, 4293, 1),
  (4295, 4295, 1), (4301, 4301, 1), (4304, 4346, 1), (4348, 4680, 1), (4682, 4685, 1),
  (4688, 4694, 1), (4696, 4696, 1), (4698, 4701, 1), (4704, 4744, 1), (4746, 4749, 1),
  (4752, 4784, 1), (4786, 4789, 1), (4792, 4798, 1), (4800, 4800, 1), (4802, 4805, 1),
  (4808, 4822, 1), (4824, 4880, 1), (4882, 4885, 1), (4888, 4954, 1), (4992, 5007, 1),
  (5024, 5109, 1), (5112, 5117, 1), (5121, 5740, 1), (5743, 5759, 1), (5761, 5786, 1),
  (5792, 5866, 1), (5873, 5880, 1), (5888, 5905, 1), (5919, 5937, 1), (5952, 5969, 1),
  (5984, 5996, 1), (5998, 6000, 1), (6016, 6067, 1), (6103, 6103, 1), (6108, 6108, 1),
  (6176, 6264, 1), (6272, 6276, 1), (6279, 6312, 1), (6314, 6314, 1), (6320, 6389, 1),
  (6400, 6430, 1), (6480, 6509, 1), (6512, 6516, 1), (6528, 6571, 1), (6576, 6601, 1),
  (6656, 6678, 1), (6688, 6740, 1), (6823, 6823, 1), (6917, 6963, 1), (6981, 6988, 1),
  (7043, 7072, 1), (7086, 7087, 1), (7098, 7141, 1), (7168, 7203, 1), (7245, 7247, 1),
  (7258, 7293, 1), (7296, 7306, 1), (7312, 7354, 1), (7357, 7359, 1), (7401, 7404, 1),
  (7406, 7411, 1), (7413, 7414, 1), (7418, 7418, 1), (7424, 7615, 1), (7680, 7957, 1),
  (7960, 7965, 1), (7968, 8005, 1), (8008, 8013, 1), (8016, 8023, 1), (8025, 8029, 2),
  (8031, 8061, 1), (8064, 8116, 1), (8118, 8124, 1), (8126, 8126, 1), (8130, 8132, 1),
  (8134, 8140, 1), (8144, 8147, 1), (8150, 8155, 1), (8160, 8172, 1), (8178, 8180, 1),
  (8182, 8188, 1), (8305, 8305, 1), (8319, 8319, 1), (8336, 8348, 1), (8450, 8450, 1),
  (8455, 8455, 1), (8458, 8467, 1), (8469, 8469, 1), (8473, 8477, 1), (8484, 8488, 2),
  (8490, 8493, 1), (8495, 8505, 1), (8508, 8511, 1), (8517, 8521, 1), (8526, 8526, 1),
  (8579, 8580, 1), (11264, 11492, 1), (11499, 11502, 1), (11506, 11507, 1), (11520, 11557, 1),
  (11559, 11559, 1), (11565, 11565, 1), (11568, 11623, 1), (11631, 11631, 1), (11648, 11670, 1),
  (11680, 11686, 1), (11688, 11694, 1), (11696, 11702, 1), (11704, 11710, 1), (11712, 11718, 1),
  (11720, 11726, 1), (11728, 11734, 1), (11736, 11742, 1), (11823, 11823, 1), (12293, 12294, 1),
  (12337, 12341, 1), (12347, 12348, 1), (12353, 12438, 1), (12445, 12447, 1), (12449, 12538, 1),
  (12540, 12543, 1), (12549, 12591, 1), (12593, 12686, 1), (12704, 12735, 1), (12784, 12799, 1),
  (13312, 19903, 1), (19968, 42124, 1), (42192, 42237, 1), (42240, 42508, 1), (42512, 42527, 1),
  (42538, 42539, 1), (42560, 42606, 1), (42623, 42653, 1), (42656, 42725, 1), (42775, 42783, 1),
  (42786, 42888, 1), (42891, 42972, 1), (42993, 43009, 1), (43011, 43013, 1), (43015, 43018, 1),
  (43020, 43042, 1), (43072, 43123, 1), (43138, 43187, 1), (43250, 43255, 1), (43259, 43259, 1),
  (43261, 43262, 1), (43274, 43301, 1), (43312, 43334, 1), (43360, 43388, 1), (43396, 43442, 1),
  (43471, 43471, 1), (43488, 43492, 1), (43494, 43503, 1), (43514, 43518, 1), (43520, 43560, 1),
  (43584, 43586, 1), (43588, 43595, 1), (43616, 43638, 1), (43642, 43642, 1), (43646, 43695, 1),
  (43697, 43697, 1), (43701, 43702, 1), (43705, 43709, 1), (43712, 43712, 1), (43714, 43714, 1),
  (43739, 43741, 1), (43744, 43754, 1), (43762, 43764, 1), (43777, 43782, 1), (43785, 43790, 1),
  (43793, 43798, 1), (43808, 43814, 1), (43816, 43822, 1), (43824, 43866, 1), (43868, 43881, 1),
  (43888, 44002, 1), (44032, 55203, 1), (55216, 55238, 1), (55243, 55291, 1), (63744, 64109, 1),
  (64112, 64217, 1), (64256, 64262, 1), (64275, 64279, 1), (64285, 64285, 1), (64287, 64296, 1),
  (64298, 64310, 1), (64312, 64316, 1), (64318, 64318, 1), (64320, 64321, 1), (64323, 64324, 1),
  (64326, 64433, 1), (64467, 64829, 1), (64848, 64911, 1), (64914, 64967, 1), (65008, 65019, 1),
  (65136, 65140, 1), (65142, 65276, 1), (65313, 65338, 1), (65345, 65370, 1), (65382, 65470, 1),
  (65474, 65479, 1), (65482, 65487, 1), (65490, 65495, 1), (65498, 65500, 1), (65536, 65547, 1),
  (65549, 65574, 1), (65576, 65594, 1), (65596, 65597, 1), (65599, 65613, 1), (65616, 65629, 1),
  (65664, 65786, 1), (66176, 66204, 1), (66208, 66256, 1), (66304, 66335, 1), (66349, 66368, 1),
  (66370, 66377, 1), (66384, 66421, 1), (66432, 66461, 1), (66464, 66499, 1), (66504, 66511, 1),
  (66560, 66717, 1), (66736, 66771, 1), (66776, 66811, 1), (66816, 66855, 1), (66864, 66915, 1),
  (66928, 66938, 1), (66940, 66954, 1), (66956, 66962, 1), (66964, 66965, 1), (66967, 66977, 1),
  (66979, 66993, 1), (66995, 67001, 1), (67003, 67004, 1), (67008, 67059, 1), (67072, 67382, 1),
  (67392, 67413, 1), (67424, 67431, 1), (67456, 67461, 1), (67463, 67504, 1), (67506, 67514, 1),
  (67584, 67589, 1), (67592, 67592, 1), (67594, 67637, 1), (67639, 67640, 1), (67644, 67644, 1),
  (67647, 67669, 1), (67680, 67702, 1), (67712, 67742, 1), (67808, 67826, 1), (67828, 67829, 1),
  (67840, 67861, 1), (67872, 67897, 1), (67904, 67929, 1), (67968, 68023, 1), (68030, 68031, 1),
  (68096, 68096, 1), (68112, 68115, 1), (68117, 68119, 1), (68121, 68149, 1), (68192, 68220, 1),
  (68224, 68252, 1), (68288, 68295, 1), (68297, 68324, 1), (68352, 68405, 1), (68416, 68437, 1),
  (68448, 68466, 1), (68480, 68497, 1), (68608, 68680, 1), (68736, 68786, 1), (68800, 68850, 1),
  (68864, 68899, 1), (68938, 68965, 1), (68975, 68997, 1), (69248, 69289, 1), (69296, 69297, 1),
  (69314, 69319, 1), (69376, 69404, 1), (69415, 69415, 1), (69424, 69445, 1), (69488, 69505, 1),
  (69552, 69572, 1), (69600, 69622, 1), (69635, 69687, 1), (69745, 69746, 1), (69749, 69749, 1),
  (69763, 69807, 1), (69840, 69864, 1), (69891, 69926, 1), (69956, 69956, 1), (69959, 69959, 1),
  (69968, 70002, 1), (70006, 70006, 1), (70019, 70066, 1), (70081, 70084, 1), (70106, 70106, 1),
  (70108, 70108, 1), (70144, 70161, 1), (70163, 70187, 1), (70207, 70208, 1), (70272, 70278, 1),
  (70280, 70280, 1), (70282, 70285, 1), (70287, 70301, 1), (70303, 70312, 1), (70320, 70366, 1),
  (70405, 70412, 1), (70415, 70416, 1), (70419, 70440, 1), (70442, 70448, 1), (70450, 70451, 1),
  (70453, 70457, 1), (70461, 70461, 1), (70480, 70480, 1), (70493, 70497, 1), (70528, 70537, 1),
  (70539, 70539, 1), (70542, 70542, 1), (70544, 70581, 1), (70583, 70583, 1), (70609, 70609, 1),
  (70611, 70611, 1), (70656, 70708, 1), (70727, 70730, 1), (70751, 70753, 1), (70784, 70831, 1),
  (70852, 70853, 1), (70855, 70855, 1), (71040, 71086, 1), (71128, 71131, 1), (71168, 71215, 1),
  (71236, 71236, 1), (71296, 71338, 1), (71352, 71352, 1), (71424, 71450, 1), (71488, 71494, 1),
  (71680, 71723, 1), (71840, 71903, 1), (71935, 71942, 1), (71945, 71945, 1), (71948, 71955, 1),
  (71957, 71958, 1), (71960, 71983, 1), (71999, 71999, 1), (72001, 72001, 1), (72096, 72103, 1),
  (72106, 72144, 1), (72161, 72161, 1), (72163, 72163, 1), (72192, 72192, 1), (72203, 72242, 1),
  (72250, 72250, 1), (72272, 72272, 1), (72284, 72329, 1), (72349, 72349, 1), (72368, 72440, 1),
  (72640, 72672, 1), (72704, 72712, 1), (72714, 72750, 1), (72768, 72768, 1), (72818, 72847, 1),
  (72960, 72966, 1), (72968, 72969, 1), (72971, 73008, 1), (73030, 73030, 1), (73056, 73061, 1),
  (73063, 73064, 1), (73066, 73097, 1), (73112, 73112, 1), (73136, 73179, 1), (73440, 73458, 1),
  (73474, 73474, 1), (73476, 73488, 1), (73490, 73523, 1), (73648, 73648, 1), (73728, 74649, 1),
  (74880, 75075, 1), (77712, 77808, 1), (77824, 78895, 1), (78913, 78918, 1), (78944, 82938, 1),
  (82944, 83526, 1), (90368, 90397, 1), (92160, 92728, 1), (92736, 92766, 1), (92784, 92862, 1),
  (92880, 92909, 1), (92928, 92975, 1), (92992, 92995, 1), (93027, 93047, 1), (93053, 93071, 1),
  (93504, 93548, 1), (93760, 93823, 1), (93856, 93880, 1), (93883, 93907, 1), (93952, 94026, 1),
  (94032, 94032, 1), (94099, 94111, 1), (94176, 94177, 1), (94179, 94179, 1), (94194, 94195, 1),
  (94208, 101589, 1), (101631, 101662, 1), (101760, 101874, 1), (110576, 110579, 1),
  (110581, 110587, 1), (110589, 110590, 1), (110592, 110882, 1), (110898, 110898, 1),
  (110928, 110930, 1), (110933, 110933, 1), (110948, 110951, 1), (110960, 111355, 1),
  (113664, 113770, 1), (113776, 113788, 1), (113792, 113800, 1), (113808, 113817, 1),
  (119808, 119892, 1), (119894, 119964, 1), (119966, 119967, 1), (119970, 119970, 1),
  (119973, 119974, 1), (119977, 119980, 1), (119982, 119993, 1), (119995, 119995, 1),
  (119997, 120003, 1), (120005, 120069, 1), (120071, 120074, 1), (120077, 120084, 1),
  (120086, 120092, 1), (120094, 120121, 1), (120123, 120126, 1), (120128, 120132, 1),
  (120134, 120134, 1), (120138, 120144, 1), (120146, 120485, 1), (120488, 120512, 1),
  (120514, 120538, 1), (120540, 120570, 1), (120572, 120596, 1), (120598, 120628, 1),
  (120630, 120654, 1), (120656, 120686, 1), (120688, 120712, 1), (120714, 120744, 1),
  (120746, 120770, 1), (120772, 120779, 1), (122624, 122654, 1), (122661, 122666, 1),
  (122928, 122989, 1), (123136, 123180, 1), (123191, 123197, 1), (123214, 123214, 1),
  (123536, 123565, 1), (123584, 123627, 1), (124112, 124139, 1), (124368, 124397, 1),
  (124400, 124400, 1), (124608, 124638, 1), (124640, 124642, 1), (124644, 124645, 1),
  (124647, 124653, 1), (124656, 124660, 1), (124670, 124671, 1), (124896, 124902, 1),
  (124904, 124907, 1), (124909, 124910, 1), (124912, 124926, 1), (124928, 125124, 1),
  (125184, 125251, 1), (125259, 125259, 1), (126464, 126467, 1), (126469, 126495, 1),
  (126497, 126498, 1), (126500, 126500, 1), (126503, 126503, 1), (126505, 126514, 1),
  (126516, 126519, 1), (126521, 126521, 1), (126523, 126523, 1), (126530, 126530, 1),
  (126535, 126539, 2), (126541, 126543, 1), (126545, 126546, 1), (126548, 126548, 1),
  (126551, 126559, 2), (126561, 126562, 1), (126564, 126564, 1), (126567, 126570, 1),
  (126572, 126578, 1), (126580, 126583, 1), (126585, 126588, 1), (126590, 126590, 1),
  (126592, 126601, 1), (126603, 126619, 1), (126625, 126627, 1), (126629, 126633, 1),
  (126635, 126651, 1), (131072, 173791, 1), (173824, 178205, 1), (178208, 183981, 1),
  (183984, 191456, 1), (191472, 192093, 1), (194560, 195101, 1), (196608, 201546, 1),
  (201552, 210041, 1)]

/-- The capital letters. -/
def upperRuns : Array (Nat × Nat × Nat) := #[
  (65, 90, 1), (192, 214, 1), (216, 222, 1), (256, 310, 2), (313, 327, 2), (330, 374, 2),
  (376, 377, 1), (379, 379, 1), (381, 381, 1), (385, 386, 1), (388, 388, 1), (390, 391, 1),
  (393, 395, 1), (398, 401, 1), (403, 404, 1), (406, 408, 1), (412, 413, 1), (415, 416, 1),
  (418, 420, 2), (422, 423, 1), (425, 425, 1), (428, 428, 1), (430, 431, 1), (433, 435, 1),
  (437, 437, 1), (439, 440, 1), (444, 444, 1), (452, 452, 1), (455, 455, 1), (458, 458, 1),
  (461, 475, 2), (478, 494, 2), (497, 497, 1), (500, 500, 1), (502, 504, 1), (506, 562, 2),
  (570, 571, 1), (573, 574, 1), (577, 577, 1), (579, 582, 1), (584, 590, 2), (880, 880, 1),
  (882, 882, 1), (886, 886, 1), (895, 895, 1), (902, 902, 1), (904, 906, 1), (908, 908, 1),
  (910, 911, 1), (913, 929, 1), (931, 939, 1), (975, 975, 1), (978, 980, 1), (984, 1006, 2),
  (1012, 1012, 1), (1015, 1015, 1), (1017, 1018, 1), (1021, 1071, 1), (1120, 1152, 2),
  (1162, 1214, 2), (1216, 1217, 1), (1219, 1229, 2), (1232, 1326, 2), (1329, 1366, 1),
  (4256, 4293, 1), (4295, 4295, 1), (4301, 4301, 1), (5024, 5109, 1), (7305, 7305, 1),
  (7312, 7354, 1), (7357, 7359, 1), (7680, 7828, 2), (7838, 7934, 2), (7944, 7951, 1),
  (7960, 7965, 1), (7976, 7983, 1), (7992, 7999, 1), (8008, 8013, 1), (8025, 8031, 2),
  (8040, 8047, 1), (8120, 8123, 1), (8136, 8139, 1), (8152, 8155, 1), (8168, 8172, 1),
  (8184, 8187, 1), (8450, 8450, 1), (8455, 8455, 1), (8459, 8461, 1), (8464, 8466, 1),
  (8469, 8469, 1), (8473, 8477, 1), (8484, 8488, 2), (8490, 8493, 1), (8496, 8499, 1),
  (8510, 8511, 1), (8517, 8517, 1), (8579, 8579, 1), (11264, 11311, 1), (11360, 11360, 1),
  (11362, 11364, 1), (11367, 11371, 2), (11373, 11376, 1), (11378, 11378, 1), (11381, 11381, 1),
  (11390, 11392, 1), (11394, 11490, 2), (11499, 11499, 1), (11501, 11501, 1), (11506, 11506, 1),
  (42560, 42604, 2), (42624, 42650, 2), (42786, 42798, 2), (42802, 42862, 2), (42873, 42875, 2),
  (42877, 42878, 1), (42880, 42886, 2), (42891, 42891, 1), (42893, 42893, 1), (42896, 42896, 1),
  (42898, 42898, 1), (42902, 42920, 2), (42922, 42926, 1), (42928, 42932, 1), (42934, 42946, 2),
  (42948, 42951, 1), (42953, 42953, 1), (42955, 42956, 1), (42958, 42972, 2), (42997, 42997, 1),
  (65313, 65338, 1), (66560, 66599, 1), (66736, 66771, 1), (66928, 66938, 1), (66940, 66954, 1),
  (66956, 66962, 1), (66964, 66965, 1), (68736, 68786, 1), (68944, 68965, 1), (71840, 71871, 1),
  (93760, 93791, 1), (93856, 93880, 1), (119808, 119833, 1), (119860, 119885, 1),
  (119912, 119937, 1), (119964, 119964, 1), (119966, 119967, 1), (119970, 119970, 1),
  (119973, 119974, 1), (119977, 119980, 1), (119982, 119989, 1), (120016, 120041, 1),
  (120068, 120069, 1), (120071, 120074, 1), (120077, 120084, 1), (120086, 120092, 1),
  (120120, 120121, 1), (120123, 120126, 1), (120128, 120132, 1), (120134, 120134, 1),
  (120138, 120144, 1), (120172, 120197, 1), (120224, 120249, 1), (120276, 120301, 1),
  (120328, 120353, 1), (120380, 120405, 1), (120432, 120457, 1), (120488, 120512, 1),
  (120546, 120570, 1), (120604, 120628, 1), (120662, 120686, 1), (120720, 120744, 1),
  (120778, 120778, 1), (125184, 125217, 1)]

/-- The small letters. -/
def lowerRuns : Array (Nat × Nat × Nat) := #[
  (97, 122, 1), (181, 181, 1), (223, 246, 1), (248, 255, 1), (257, 309, 2), (311, 312, 1),
  (314, 326, 2), (328, 329, 1), (331, 375, 2), (378, 380, 2), (382, 384, 1), (387, 387, 1),
  (389, 389, 1), (392, 392, 1), (396, 397, 1), (402, 402, 1), (405, 405, 1), (409, 411, 1),
  (414, 414, 1), (417, 421, 2), (424, 424, 1), (426, 427, 1), (429, 429, 1), (432, 432, 1),
  (436, 436, 1), (438, 438, 1), (441, 442, 1), (445, 447, 1), (454, 454, 1), (457, 457, 1),
  (460, 474, 2), (476, 477, 1), (479, 493, 2), (495, 496, 1), (499, 499, 1), (501, 501, 1),
  (505, 561, 2), (563, 569, 1), (572, 572, 1), (575, 576, 1), (578, 578, 1), (583, 589, 2),
  (591, 659, 1), (662, 687, 1), (881, 881, 1), (883, 883, 1), (887, 887, 1), (891, 893, 1),
  (912, 912, 1), (940, 974, 1), (976, 977, 1), (981, 983, 1), (985, 1005, 2), (1007, 1011, 1),
  (1013, 1013, 1), (1016, 1016, 1), (1019, 1020, 1), (1072, 1119, 1), (1121, 1153, 2),
  (1163, 1215, 2), (1218, 1228, 2), (1230, 1231, 1), (1233, 1327, 2), (1376, 1416, 1),
  (4304, 4346, 1), (4349, 4351, 1), (5112, 5117, 1), (7296, 7304, 1), (7306, 7306, 1),
  (7424, 7467, 1), (7531, 7543, 1), (7545, 7578, 1), (7681, 7827, 2), (7829, 7837, 1),
  (7839, 7933, 2), (7935, 7943, 1), (7952, 7957, 1), (7968, 7975, 1), (7984, 7991, 1),
  (8000, 8005, 1), (8016, 8023, 1), (8032, 8039, 1), (8048, 8061, 1), (8064, 8071, 1),
  (8080, 8087, 1), (8096, 8103, 1), (8112, 8116, 1), (8118, 8119, 1), (8126, 8126, 1),
  (8130, 8132, 1), (8134, 8135, 1), (8144, 8147, 1), (8150, 8151, 1), (8160, 8167, 1),
  (8178, 8180, 1), (8182, 8183, 1), (8458, 8458, 1), (8462, 8463, 1), (8467, 8467, 1),
  (8495, 8495, 1), (8500, 8500, 1), (8505, 8505, 1), (8508, 8509, 1), (8518, 8521, 1),
  (8526, 8526, 1), (8580, 8580, 1), (11312, 11359, 1), (11361, 11361, 1), (11365, 11366, 1),
  (11368, 11372, 2), (11377, 11377, 1), (11379, 11380, 1), (11382, 11387, 1), (11393, 11489, 2),
  (11491, 11492, 1), (11500, 11500, 1), (11502, 11502, 1), (11507, 11507, 1), (11520, 11557, 1),
  (11559, 11559, 1), (11565, 11565, 1), (42561, 42605, 2), (42625, 42651, 2), (42787, 42797, 2),
  (42799, 42801, 1), (42803, 42863, 2), (42865, 42872, 1), (42874, 42874, 1), (42876, 42876, 1),
  (42879, 42887, 2), (42892, 42892, 1), (42894, 42894, 1), (42897, 42897, 1), (42899, 42901, 1),
  (42903, 42921, 2), (42927, 42927, 1), (42933, 42947, 2), (42952, 42952, 1), (42954, 42954, 1),
  (42957, 42971, 2), (42998, 42998, 1), (43002, 43002, 1), (43824, 43866, 1), (43872, 43880, 1),
  (43888, 43967, 1), (64256, 64262, 1), (64275, 64279, 1), (65345, 65370, 1), (66600, 66639, 1),
  (66776, 66811, 1), (66967, 66977, 1), (66979, 66993, 1), (66995, 67001, 1), (67003, 67004, 1),
  (68800, 68850, 1), (68976, 68997, 1), (71872, 71903, 1), (93792, 93823, 1), (93883, 93907, 1),
  (119834, 119859, 1), (119886, 119892, 1), (119894, 119911, 1), (119938, 119963, 1),
  (119990, 119993, 1), (119995, 119995, 1), (119997, 120003, 1), (120005, 120015, 1),
  (120042, 120067, 1), (120094, 120119, 1), (120146, 120171, 1), (120198, 120223, 1),
  (120250, 120275, 1), (120302, 120327, 1), (120354, 120379, 1), (120406, 120431, 1),
  (120458, 120485, 1), (120514, 120538, 1), (120540, 120545, 1), (120572, 120596, 1),
  (120598, 120603, 1), (120630, 120654, 1), (120656, 120661, 1), (120688, 120712, 1),
  (120714, 120719, 1), (120746, 120770, 1), (120772, 120777, 1), (120779, 120779, 1),
  (122624, 122633, 1), (122635, 122654, 1), (122661, 122666, 1), (125218, 125251, 1)]

/-- The decimal digits. -/
def decimalRuns : Array (Nat × Nat × Nat) := #[
  (48, 57, 1), (1632, 1641, 1), (1776, 1785, 1), (1984, 1993, 1), (2406, 2415, 1), (2534, 2543, 1),
  (2662, 2671, 1), (2790, 2799, 1), (2918, 2927, 1), (3046, 3055, 1), (3174, 3183, 1),
  (3302, 3311, 1), (3430, 3439, 1), (3558, 3567, 1), (3664, 3673, 1), (3792, 3801, 1),
  (3872, 3881, 1), (4160, 4169, 1), (4240, 4249, 1), (6112, 6121, 1), (6160, 6169, 1),
  (6470, 6479, 1), (6608, 6617, 1), (6784, 6793, 1), (6800, 6809, 1), (6992, 7001, 1),
  (7088, 7097, 1), (7232, 7241, 1), (7248, 7257, 1), (42528, 42537, 1), (43216, 43225, 1),
  (43264, 43273, 1), (43472, 43481, 1), (43504, 43513, 1), (43600, 43609, 1), (44016, 44025, 1),
  (65296, 65305, 1), (66720, 66729, 1), (68912, 68921, 1), (68928, 68937, 1), (69734, 69743, 1),
  (69872, 69881, 1), (69942, 69951, 1), (70096, 70105, 1), (70384, 70393, 1), (70736, 70745, 1),
  (70864, 70873, 1), (71248, 71257, 1), (71360, 71369, 1), (71376, 71395, 1), (71472, 71481, 1),
  (71904, 71913, 1), (72016, 72025, 1), (72688, 72697, 1), (72784, 72793, 1), (73040, 73049, 1),
  (73120, 73129, 1), (73184, 73193, 1), (73552, 73561, 1), (90416, 90425, 1), (92768, 92777, 1),
  (92864, 92873, 1), (93008, 93017, 1), (93552, 93561, 1), (118000, 118009, 1),
  (120782, 120831, 1), (123200, 123209, 1), (123632, 123641, 1), (124144, 124153, 1),
  (124401, 124410, 1), (125264, 125273, 1), (130032, 130041, 1)]

/-- The letters that stand for numbers. -/
def numeralRuns : Array (Nat × Nat × Nat) := #[
  (5870, 5872, 1), (8544, 8578, 1), (8581, 8584, 1), (12295, 12295, 1), (12321, 12329, 1),
  (12344, 12346, 1), (42726, 42735, 1), (65856, 65908, 1), (66369, 66369, 1), (66378, 66378, 1),
  (66513, 66517, 1), (74752, 74862, 1), (94196, 94198, 1)]

/-- The punctuation marks. -/
def punctuationRuns : Array (Nat × Nat × Nat) := #[
  (33, 35, 1), (37, 42, 1), (44, 47, 1), (58, 59, 1), (63, 64, 1), (91, 93, 1), (95, 95, 1),
  (123, 123, 1), (125, 125, 1), (161, 161, 1), (167, 167, 1), (171, 171, 1), (182, 183, 1),
  (187, 187, 1), (191, 191, 1), (894, 894, 1), (903, 903, 1), (1370, 1375, 1), (1417, 1418, 1),
  (1470, 1470, 1), (1472, 1472, 1), (1475, 1475, 1), (1478, 1478, 1), (1523, 1524, 1),
  (1545, 1546, 1), (1548, 1549, 1), (1563, 1563, 1), (1565, 1567, 1), (1642, 1645, 1),
  (1748, 1748, 1), (1792, 1805, 1), (2039, 2041, 1), (2096, 2110, 1), (2142, 2142, 1),
  (2404, 2405, 1), (2416, 2416, 1), (2557, 2557, 1), (2678, 2678, 1), (2800, 2800, 1),
  (3191, 3191, 1), (3204, 3204, 1), (3572, 3572, 1), (3663, 3663, 1), (3674, 3675, 1),
  (3844, 3858, 1), (3860, 3860, 1), (3898, 3901, 1), (3973, 3973, 1), (4048, 4052, 1),
  (4057, 4058, 1), (4170, 4175, 1), (4347, 4347, 1), (4960, 4968, 1), (5120, 5120, 1),
  (5742, 5742, 1), (5787, 5788, 1), (5867, 5869, 1), (5941, 5942, 1), (6100, 6102, 1),
  (6104, 6106, 1), (6144, 6154, 1), (6468, 6469, 1), (6686, 6687, 1), (6816, 6822, 1),
  (6824, 6829, 1), (6990, 6991, 1), (7002, 7008, 1), (7037, 7039, 1), (7164, 7167, 1),
  (7227, 7231, 1), (7294, 7295, 1), (7360, 7367, 1), (7379, 7379, 1), (8208, 8231, 1),
  (8240, 8259, 1), (8261, 8273, 1), (8275, 8286, 1), (8317, 8318, 1), (8333, 8334, 1),
  (8968, 8971, 1), (9001, 9002, 1), (10088, 10101, 1), (10181, 10182, 1), (10214, 10223, 1),
  (10627, 10648, 1), (10712, 10715, 1), (10748, 10749, 1), (11513, 11516, 1), (11518, 11519, 1),
  (11632, 11632, 1), (11776, 11822, 1), (11824, 11855, 1), (11858, 11869, 1), (12289, 12291, 1),
  (12296, 12305, 1), (12308, 12319, 1), (12336, 12336, 1), (12349, 12349, 1), (12448, 12448, 1),
  (12539, 12539, 1), (42238, 42239, 1), (42509, 42511, 1), (42611, 42611, 1), (42622, 42622, 1),
  (42738, 42743, 1), (43124, 43127, 1), (43214, 43215, 1), (43256, 43258, 1), (43260, 43260, 1),
  (43310, 43311, 1), (43359, 43359, 1), (43457, 43469, 1), (43486, 43487, 1), (43612, 43615, 1),
  (43742, 43743, 1), (43760, 43761, 1), (44011, 44011, 1), (64830, 64831, 1), (65040, 65049, 1),
  (65072, 65106, 1), (65108, 65121, 1), (65123, 65123, 1), (65128, 65128, 1), (65130, 65131, 1),
  (65281, 65283, 1), (65285, 65290, 1), (65292, 65295, 1), (65306, 65307, 1), (65311, 65312, 1),
  (65339, 65341, 1), (65343, 65343, 1), (65371, 65373, 2), (65375, 65381, 1), (65792, 65794, 1),
  (66463, 66463, 1), (66512, 66512, 1), (66927, 66927, 1), (67671, 67671, 1), (67871, 67871, 1),
  (67903, 67903, 1), (68176, 68184, 1), (68223, 68223, 1), (68336, 68342, 1), (68409, 68415, 1),
  (68505, 68508, 1), (68974, 68974, 1), (69293, 69293, 1), (69328, 69328, 1), (69461, 69465, 1),
  (69510, 69513, 1), (69703, 69709, 1), (69819, 69820, 1), (69822, 69825, 1), (69952, 69955, 1),
  (70004, 70005, 1), (70085, 70088, 1), (70093, 70093, 1), (70107, 70107, 1), (70109, 70111, 1),
  (70200, 70205, 1), (70313, 70313, 1), (70612, 70613, 1), (70615, 70616, 1), (70731, 70735, 1),
  (70746, 70747, 1), (70749, 70749, 1), (70854, 70854, 1), (71105, 71127, 1), (71233, 71235, 1),
  (71264, 71276, 1), (71353, 71353, 1), (71484, 71486, 1), (71739, 71739, 1), (72004, 72006, 1),
  (72162, 72162, 1), (72255, 72262, 1), (72346, 72348, 1), (72350, 72354, 1), (72448, 72457, 1),
  (72673, 72673, 1), (72769, 72773, 1), (72816, 72817, 1), (73463, 73464, 1), (73539, 73551, 1),
  (73727, 73727, 1), (74864, 74868, 1), (77809, 77810, 1), (92782, 92783, 1), (92917, 92917, 1),
  (92983, 92987, 1), (92996, 92996, 1), (93549, 93551, 1), (93847, 93850, 1), (94178, 94178, 1),
  (113823, 113823, 1), (121479, 121483, 1), (124415, 124415, 1), (125278, 125279, 1)]

/-- The punctuation marks that join words. -/
def connectorRuns : Array (Nat × Nat × Nat) := #[
  (95, 95, 1), (8255, 8256, 1), (8276, 8276, 1), (65075, 65076, 1), (65101, 65103, 1),
  (65343, 65343, 1)]

/-- The blanks and separators of lines and paragraphs. -/
def separatorRuns : Array (Nat × Nat × Nat) := #[
  (32, 32, 1), (160, 160, 1), (5760, 5760, 1), (8192, 8202, 1), (8232, 8233, 1), (8239, 8239, 1),
  (8287, 8287, 1), (12288, 12288, 1)]

/-- The blanks. -/
def blankRuns : Array (Nat × Nat × Nat) := #[
  (32, 32, 1), (160, 160, 1), (5760, 5760, 1), (8192, 8202, 1), (8239, 8239, 1), (8287, 8287, 1),
  (12288, 12288, 1)]

/-- The controls, format characters, halves of pairs, private and unassigned codes. -/
def otherRuns : Array (Nat × Nat × Nat) := #[
  (0, 31, 1), (127, 159, 1), (173, 173, 1), (888, 889, 1), (896, 899, 1), (907, 907, 1),
  (909, 909, 1), (930, 930, 1), (1328, 1328, 1), (1367, 1368, 1), (1419, 1420, 1), (1424, 1424, 1),
  (1480, 1487, 1), (1515, 1518, 1), (1525, 1541, 1), (1564, 1564, 1), (1757, 1757, 1),
  (1806, 1807, 1), (1867, 1868, 1), (1970, 1983, 1), (2043, 2044, 1), (2094, 2095, 1),
  (2111, 2111, 1), (2140, 2141, 1), (2143, 2143, 1), (2155, 2159, 1), (2192, 2198, 1),
  (2274, 2274, 1), (2436, 2436, 1), (2445, 2446, 1), (2449, 2450, 1), (2473, 2473, 1),
  (2481, 2481, 1), (2483, 2485, 1), (2490, 2491, 1), (2501, 2502, 1), (2505, 2506, 1),
  (2511, 2518, 1), (2520, 2523, 1), (2526, 2526, 1), (2532, 2533, 1), (2559, 2560, 1),
  (2564, 2564, 1), (2571, 2574, 1), (2577, 2578, 1), (2601, 2601, 1), (2609, 2609, 1),
  (2612, 2612, 1), (2615, 2615, 1), (2618, 2619, 1), (2621, 2621, 1), (2627, 2630, 1),
  (2633, 2634, 1), (2638, 2640, 1), (2642, 2648, 1), (2653, 2653, 1), (2655, 2661, 1),
  (2679, 2688, 1), (2692, 2692, 1), (2702, 2702, 1), (2706, 2706, 1), (2729, 2729, 1),
  (2737, 2737, 1), (2740, 2740, 1), (2746, 2747, 1), (2758, 2758, 1), (2762, 2762, 1),
  (2766, 2767, 1), (2769, 2783, 1), (2788, 2789, 1), (2802, 2808, 1), (2816, 2816, 1),
  (2820, 2820, 1), (2829, 2830, 1), (2833, 2834, 1), (2857, 2857, 1), (2865, 2865, 1),
  (2868, 2868, 1), (2874, 2875, 1), (2885, 2886, 1), (2889, 2890, 1), (2894, 2900, 1),
  (2904, 2907, 1), (2910, 2910, 1), (2916, 2917, 1), (2936, 2945, 1), (2948, 2948, 1),
  (2955, 2957, 1), (2961, 2961, 1), (2966, 2968, 1), (2971, 2971, 1), (2973, 2973, 1),
  (2976, 2978, 1), (2981, 2983, 1), (2987, 2989, 1), (3002, 3005, 1), (3011, 3013, 1),
  (3017, 3017, 1), (3022, 3023, 1), (3025, 3030, 1), (3032, 3045, 1), (3067, 3071, 1),
  (3085, 3085, 1), (3089, 3089, 1), (3113, 3113, 1), (3130, 3131, 1), (3141, 3141, 1),
  (3145, 3145, 1), (3150, 3156, 1), (3159, 3159, 1), (3163, 3163, 1), (3166, 3167, 1),
  (3172, 3173, 1), (3184, 3190, 1), (3213, 3213, 1), (3217, 3217, 1), (3241, 3241, 1),
  (3252, 3252, 1), (3258, 3259, 1), (3269, 3269, 1), (3273, 3273, 1), (3278, 3284, 1),
  (3287, 3291, 1), (3295, 3295, 1), (3300, 3301, 1), (3312, 3312, 1), (3316, 3327, 1),
  (3341, 3341, 1), (3345, 3345, 1), (3397, 3397, 1), (3401, 3401, 1), (3408, 3411, 1),
  (3428, 3429, 1), (3456, 3456, 1), (3460, 3460, 1), (3479, 3481, 1), (3506, 3506, 1),
  (3516, 3516, 1), (3518, 3519, 1), (3527, 3529, 1), (3531, 3534, 1), (3541, 3541, 1),
  (3543, 3543, 1), (3552, 3557, 1), (3568, 3569, 1), (3573, 3584, 1), (3643, 3646, 1),
  (3676, 3712, 1), (3715, 3715, 1), (3717, 3717, 1), (3723, 3723, 1), (3748, 3748, 1),
  (3750, 3750, 1), (3774, 3775, 1), (3781, 3781, 1), (3783, 3783, 1), (3791, 3791, 1),
  (3802, 3803, 1), (3808, 3839, 1), (3912, 3912, 1), (3949, 3952, 1), (3992, 3992, 1),
  (4029, 4029, 1), (4045, 4045, 1), (4059, 4095, 1), (4294, 4294, 1), (4296, 4300, 1),
  (4302, 4303, 1), (4681, 4681, 1), (4686, 4687, 1), (4695, 4695, 1), (4697, 4697, 1),
  (4702, 4703, 1), (4745, 4745, 1), (4750, 4751, 1), (4785, 4785, 1), (4790, 4791, 1),
  (4799, 4799, 1), (4801, 4801, 1), (4806, 4807, 1), (4823, 4823, 1), (4881, 4881, 1),
  (4886, 4887, 1), (4955, 4956, 1), (4989, 4991, 1), (5018, 5023, 1), (5110, 5111, 1),
  (5118, 5119, 1), (5789, 5791, 1), (5881, 5887, 1), (5910, 5918, 1), (5943, 5951, 1),
  (5972, 5983, 1), (5997, 5997, 1), (6001, 6001, 1), (6004, 6015, 1), (6110, 6111, 1),
  (6122, 6127, 1), (6138, 6143, 1), (6158, 6158, 1), (6170, 6175, 1), (6265, 6271, 1),
  (6315, 6319, 1), (6390, 6399, 1), (6431, 6431, 1), (6444, 6447, 1), (6460, 6463, 1),
  (6465, 6467, 1), (6510, 6511, 1), (6517, 6527, 1), (6572, 6575, 1), (6602, 6607, 1),
  (6619, 6621, 1), (6684, 6685, 1), (6751, 6751, 1), (6781, 6782, 1), (6794, 6799, 1),
  (6810, 6815, 1), (6830, 6831, 1), (6878, 6879, 1), (6892, 6911, 1), (6989, 6989, 1),
  (7156, 7163, 1), (7224, 7226, 1), (7242, 7244, 1), (7307, 7311, 1), (7355, 7356, 1),
  (7368, 7375, 1), (7419, 7423, 1), (7958, 7959, 1), (7966, 7967, 1), (8006, 8007, 1),
  (8014, 8015, 1), (8024, 8030, 2), (8062, 8063, 1), (8117, 8117, 1), (8133, 8133, 1),
  (8148, 8149, 1), (8156, 8156, 1), (8176, 8177, 1), (8181, 8181, 1), (8191, 8191, 1),
  (8203, 8207, 1), (8234, 8238, 1), (8288, 8303, 1), (8306, 8307, 1), (8335, 8335, 1),
  (8349, 8351, 1), (8386, 8399, 1), (8433, 8447, 1), (8588, 8591, 1), (9258, 9279, 1),
  (9291, 9311, 1), (11124, 11125, 1), (11508, 11512, 1), (11558, 11558, 1), (11560, 11564, 1),
  (11566, 11567, 1), (11624, 11630, 1), (11633, 11646, 1), (11671, 11679, 1), (11687, 11687, 1),
  (11695, 11695, 1), (11703, 11703, 1), (11711, 11711, 1), (11719, 11719, 1), (11727, 11727, 1),
  (11735, 11735, 1), (11743, 11743, 1), (11870, 11903, 1), (11930, 11930, 1), (12020, 12031, 1),
  (12246, 12271, 1), (12352, 12352, 1), (12439, 12440, 1), (12544, 12548, 1), (12592, 12592, 1),
  (12687, 12687, 1), (12774, 12782, 1), (12831, 12831, 1), (42125, 42127, 1), (42183, 42191, 1),
  (42540, 42559, 1), (42744, 42751, 1), (42973, 42992, 1), (43053, 43055, 1), (43066, 43071, 1),
  (43128, 43135, 1), (43206, 43213, 1), (43226, 43231, 1), (43348, 43358, 1), (43389, 43391, 1),
  (43470, 43470, 1), (43482, 43485, 1), (43519, 43519, 1), (43575, 43583, 1), (43598, 43599, 1),
  (43610, 43611, 1), (43715, 43738, 1), (43767, 43776, 1), (43783, 43784, 1), (43791, 43792, 1),
  (43799, 43807, 1), (43815, 43815, 1), (43823, 43823, 1), (43884, 43887, 1), (44014, 44015, 1),
  (44026, 44031, 1), (55204, 55215, 1), (55239, 55242, 1), (55292, 63743, 1), (64110, 64111, 1),
  (64218, 64255, 1), (64263, 64274, 1), (64280, 64284, 1), (64311, 64311, 1), (64317, 64317, 1),
  (64319, 64319, 1), (64322, 64322, 1), (64325, 64325, 1), (64976, 65007, 1), (65050, 65055, 1),
  (65107, 65107, 1), (65127, 65127, 1), (65132, 65135, 1), (65141, 65141, 1), (65277, 65280, 1),
  (65471, 65473, 1), (65480, 65481, 1), (65488, 65489, 1), (65496, 65497, 1), (65501, 65503, 1),
  (65511, 65511, 1), (65519, 65531, 1), (65534, 65535, 1), (65548, 65548, 1), (65575, 65575, 1),
  (65595, 65595, 1), (65598, 65598, 1), (65614, 65615, 1), (65630, 65663, 1), (65787, 65791, 1),
  (65795, 65798, 1), (65844, 65846, 1), (65935, 65935, 1), (65949, 65951, 1), (65953, 65999, 1),
  (66046, 66175, 1), (66205, 66207, 1), (66257, 66271, 1), (66300, 66303, 1), (66340, 66348, 1),
  (66379, 66383, 1), (66427, 66431, 1), (66462, 66462, 1), (66500, 66503, 1), (66518, 66559, 1),
  (66718, 66719, 1), (66730, 66735, 1), (66772, 66775, 1), (66812, 66815, 1), (66856, 66863, 1),
  (66916, 66926, 1), (66939, 66939, 1), (66955, 66955, 1), (66963, 66963, 1), (66966, 66966, 1),
  (66978, 66978, 1), (66994, 66994, 1), (67002, 67002, 1), (67005, 67007, 1), (67060, 67071, 1),
  (67383, 67391, 1), (67414, 67423, 1), (67432, 67455, 1), (67462, 67462, 1), (67505, 67505, 1),
  (67515, 67583, 1), (67590, 67591, 1), (67593, 67593, 1), (67638, 67638, 1), (67641, 67643, 1),
  (67645, 67646, 1), (67670, 67670, 1), (67743, 67750, 1), (67760, 67807, 1), (67827, 67827, 1),
  (67830, 67834, 1), (67868, 67870, 1), (67898, 67902, 1), (67930, 67967, 1), (68024, 68027, 1),
  (68048, 68049, 1), (68100, 68100, 1), (68103, 68107, 1), (68116, 68116, 1), (68120, 68120, 1),
  (68150, 68151, 1), (68155, 68158, 1), (68169, 68175, 1), (68185, 68191, 1), (68256, 68287, 1),
  (68327, 68330, 1), (68343, 68351, 1), (68406, 68408, 1), (68438, 68439, 1), (68467, 68471, 1),
  (68498, 68504, 1), (68509, 68520, 1), (68528, 68607, 1), (68681, 68735, 1), (68787, 68799, 1),
  (68851, 68857, 1), (68904, 68911, 1), (68922, 68927, 1), (68966, 68968, 1), (68998, 69005, 1),
  (69008, 69215, 1), (69247, 69247, 1), (69290, 69290, 1), (69294, 69295, 1), (69298, 69313, 1),
  (69320, 69327, 1), (69337, 69369, 1), (69416, 69423, 1), (69466, 69487, 1), (69514, 69551, 1),
  (69580, 69599, 1), (69623, 69631, 1), (69710, 69713, 1), (69750, 69758, 1), (69821, 69821, 1),
  (69827, 69839, 1), (69865, 69871, 1), (69882, 69887, 1), (69941, 69941, 1), (69960, 69967, 1),
  (70007, 70015, 1), (70112, 70112, 1), (70133, 70143, 1), (70162, 70162, 1), (70210, 70271, 1),
  (70279, 70279, 1), (70281, 70281, 1), (70286, 70286, 1), (70302, 70302, 1), (70314, 70319, 1),
  (70379, 70383, 1), (70394, 70399, 1), (70404, 70404, 1), (70413, 70414, 1), (70417, 70418, 1),
  (70441, 70441, 1), (70449, 70449, 1), (70452, 70452, 1), (70458, 70458, 1), (70469, 70470, 1),
  (70473, 70474, 1), (70478, 70479, 1), (70481, 70486, 1), (70488, 70492, 1), (70500, 70501, 1),
  (70509, 70511, 1), (70517, 70527, 1), (70538, 70538, 1), (70540, 70541, 1), (70543, 70543, 1),
  (70582, 70582, 1), (70593, 70593, 1), (70595, 70596, 1), (70598, 70598, 1), (70603, 70603, 1),
  (70614, 70614, 1), (70617, 70624, 1), (70627, 70655, 1), (70748, 70748, 1), (70754, 70783, 1),
  (70856, 70863, 1), (70874, 71039, 1), (71094, 71095, 1), (71134, 71167, 1), (71237, 71247, 1),
  (71258, 71263, 1), (71277, 71295, 1), (71354, 71359, 1), (71370, 71375, 1), (71396, 71423, 1),
  (71451, 71452, 1), (71468, 71471, 1), (71495, 71679, 1), (71740, 71839, 1), (71923, 71934, 1),
  (71943, 71944, 1), (71946, 71947, 1), (71956, 71956, 1), (71959, 71959, 1), (71990, 71990, 1),
  (71993, 71994, 1), (72007, 72015, 1), (72026, 72095, 1), (72104, 72105, 1), (72152, 72153, 1),
  (72165, 72191, 1), (72264, 72271, 1), (72355, 72367, 1), (72441, 72447, 1), (72458, 72543, 1),
  (72552, 72639, 1), (72674, 72687, 1), (72698, 72703, 1), (72713, 72713, 1), (72759, 72759, 1),
  (72774, 72783, 1), (72813, 72815, 1), (72848, 72849, 1), (72872, 72872, 1), (72887, 72959, 1),
  (72967, 72967, 1), (72970, 72970, 1), (73015, 73017, 1), (73019, 73019, 1), (73022, 73022, 1),
  (73032, 73039, 1), (73050, 73055, 1), (73062, 73062, 1), (73065, 73065, 1), (73103, 73103, 1),
  (73106, 73106, 1), (73113, 73119, 1), (73130, 73135, 1), (73180, 73183, 1), (73194, 73439, 1),
  (73465, 73471, 1), (73489, 73489, 1), (73531, 73533, 1), (73563, 73647, 1), (73649, 73663, 1),
  (73714, 73726, 1), (74650, 74751, 1), (74863, 74863, 1), (74869, 74879, 1), (75076, 77711, 1),
  (77811, 77823, 1), (78896, 78911, 1), (78934, 78943, 1), (82939, 82943, 1), (83527, 90367, 1),
  (90426, 92159, 1), (92729, 92735, 1), (92767, 92767, 1), (92778, 92781, 1), (92863, 92863, 1),
  (92874, 92879, 1), (92910, 92911, 1), (92918, 92927, 1), (92998, 93007, 1), (93018, 93018, 1),
  (93026, 93026, 1), (93048, 93052, 1), (93072, 93503, 1), (93562, 93759, 1), (93851, 93855, 1),
  (93881, 93882, 1), (93908, 93951, 1), (94027, 94030, 1), (94088, 94094, 1), (94112, 94175, 1),
  (94181, 94191, 1), (94199, 94207, 1), (101590, 101630, 1), (101663, 101759, 1),
  (101875, 110575, 1), (110580, 110580, 1), (110588, 110588, 1), (110591, 110591, 1),
  (110883, 110897, 1), (110899, 110927, 1), (110931, 110932, 1), (110934, 110947, 1),
  (110952, 110959, 1), (111356, 113663, 1), (113771, 113775, 1), (113789, 113791, 1),
  (113801, 113807, 1), (113818, 113819, 1), (113824, 117759, 1), (118013, 118015, 1),
  (118452, 118457, 1), (118481, 118495, 1), (118513, 118527, 1), (118574, 118575, 1),
  (118599, 118607, 1), (118724, 118783, 1), (119030, 119039, 1), (119079, 119080, 1),
  (119155, 119162, 1), (119275, 119295, 1), (119366, 119487, 1), (119508, 119519, 1),
  (119540, 119551, 1), (119639, 119647, 1), (119673, 119807, 1), (119893, 119893, 1),
  (119965, 119965, 1), (119968, 119969, 1), (119971, 119972, 1), (119975, 119976, 1),
  (119981, 119981, 1), (119994, 119994, 1), (119996, 119996, 1), (120004, 120004, 1),
  (120070, 120070, 1), (120075, 120076, 1), (120085, 120085, 1), (120093, 120093, 1),
  (120122, 120122, 1), (120127, 120127, 1), (120133, 120133, 1), (120135, 120137, 1),
  (120145, 120145, 1), (120486, 120487, 1), (120780, 120781, 1), (121484, 121498, 1),
  (121504, 121504, 1), (121520, 122623, 1), (122655, 122660, 1), (122667, 122879, 1),
  (122887, 122887, 1), (122905, 122906, 1), (122914, 122914, 1), (122917, 122917, 1),
  (122923, 122927, 1), (122990, 123022, 1), (123024, 123135, 1), (123181, 123183, 1),
  (123198, 123199, 1), (123210, 123213, 1), (123216, 123535, 1), (123567, 123583, 1),
  (123642, 123646, 1), (123648, 124111, 1), (124154, 124367, 1), (124411, 124414, 1),
  (124416, 124607, 1), (124639, 124639, 1), (124662, 124669, 1), (124672, 124895, 1),
  (124903, 124903, 1), (124908, 124908, 1), (124911, 124911, 1), (124927, 124927, 1),
  (125125, 125126, 1), (125143, 125183, 1), (125260, 125263, 1), (125274, 125277, 1),
  (125280, 126064, 1), (126133, 126208, 1), (126270, 126463, 1), (126468, 126468, 1),
  (126496, 126496, 1), (126499, 126499, 1), (126501, 126502, 1), (126504, 126504, 1),
  (126515, 126515, 1), (126520, 126522, 2), (126524, 126529, 1), (126531, 126534, 1),
  (126536, 126540, 2), (126544, 126544, 1), (126547, 126547, 1), (126549, 126550, 1),
  (126552, 126560, 2), (126563, 126563, 1), (126565, 126566, 1), (126571, 126571, 1),
  (126579, 126579, 1), (126584, 126584, 1), (126589, 126589, 1), (126591, 126591, 1),
  (126602, 126602, 1), (126620, 126624, 1), (126628, 126628, 1), (126634, 126634, 1),
  (126652, 126703, 1), (126706, 126975, 1), (127020, 127023, 1), (127124, 127135, 1),
  (127151, 127152, 1), (127168, 127168, 1), (127184, 127184, 1), (127222, 127231, 1),
  (127406, 127461, 1), (127491, 127503, 1), (127548, 127551, 1), (127561, 127567, 1),
  (127570, 127583, 1), (127590, 127743, 1), (128729, 128731, 1), (128749, 128751, 1),
  (128765, 128767, 1), (128986, 128991, 1), (129004, 129007, 1), (129009, 129023, 1),
  (129036, 129039, 1), (129096, 129103, 1), (129114, 129119, 1), (129160, 129167, 1),
  (129198, 129199, 1), (129212, 129215, 1), (129218, 129231, 1), (129241, 129279, 1),
  (129624, 129631, 1), (129646, 129647, 1), (129661, 129663, 1), (129675, 129677, 1),
  (129735, 129735, 1), (129737, 129740, 1), (129757, 129758, 1), (129771, 129774, 1),
  (129785, 129791, 1), (129939, 129939, 1), (130043, 131071, 1), (173792, 173823, 1),
  (178206, 178207, 1), (183982, 183983, 1), (191457, 191471, 1), (192094, 194559, 1),
  (195102, 196607, 1), (201547, 201551, 1), (210042, 917759, 1), (918000, 1114111, 1)]

/-- The controls. -/
def controlRuns : Array (Nat × Nat × Nat) := #[
  (0, 31, 1), (127, 159, 1)]

/-- Whether a code lies in one of the runs between two places of the table, found by halving. -/
def inRuns (table : Array (Nat × Nat × Nat)) (code : Nat) : Nat → Nat → Nat → Bool
  | 0, _, _ => false
  | fuel + 1, low, high =>
    if low ≥ high then false
    else
      let middle := (low + high) / 2
      match table[middle]? with
      | none => false
      | some (first, last, step) =>
        if code < first then inRuns table code fuel low middle
        else if last < code then inRuns table code fuel (middle + 1) high
        else (code - first) % step == 0

/-- A general category, or several that share their first letter. -/
inductive Category where
  | letter
  | upper
  | lower
  | decimal
  | numeral
  | punctuation
  | connector
  | separator
  | blank
  | other
  | control
  deriving DecidableEq, Repr

namespace Category

/-- The sign of a category in the standard. -/
def sign : Category → String
  | .letter => "L"
  | .upper => "Lu"
  | .lower => "Ll"
  | .decimal => "Nd"
  | .numeral => "Nl"
  | .punctuation => "P"
  | .connector => "Pc"
  | .separator => "Z"
  | .blank => "Zs"
  | .other => "C"
  | .control => "Cc"

/-- All categories. -/
def all : List Category :=
  [.letter, .upper, .lower, .decimal, .numeral, .punctuation, .connector, .separator, .blank, .other,
    .control]

/-- The category with a sign. -/
def ofSign? (sign : String) : Option Category :=
  all.find? (·.sign == sign)

/-- The table of a category. -/
def runs : Category → Array (Nat × Nat × Nat)
  | .letter => letterRuns
  | .upper => upperRuns
  | .lower => lowerRuns
  | .decimal => decimalRuns
  | .numeral => numeralRuns
  | .punctuation => punctuationRuns
  | .connector => connectorRuns
  | .separator => separatorRuns
  | .blank => blankRuns
  | .other => otherRuns
  | .control => controlRuns

/-- Whether a code is in a category. -/
def contains (category : Category) (code : Nat) : Bool :=
  inRuns category.runs code 16 0 category.runs.size

end Category

end Codemod.Text
