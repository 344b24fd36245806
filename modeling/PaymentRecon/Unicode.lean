import Mathlib.Data.List.DropRight
import PaymentRecon.Schemas

/-!
# Python's string methods

`str.strip`, `str.isalpha`, and `str.upper`, which validation puts the texts of a request through.
The character properties are those of Unicode 15.0, as tables: `alphaRanges` are the letters
(categories `Lu`, `Ll`, `Lt`, `Lm`, and `Lo`), `upperRuns` the upper-case letters (`Lu`), and
`upperRules` and `specialUpper` the mapping to upper case, which for some letters is more than one
character long.

What validation relies on is checked on the tables by the kernel: an upper-case letter is a letter
(`isLetter_of_isUpper`) and no blank (`isSpace_of_isUpper`), so that stripping and upper-casing leave a
text of upper-case letters as it is.
-/

namespace PaymentRecon

/-! ## The tables -/

/-- The code points `first`, `first + step`, and so on up to `last`. -/
structure CodeRun where
  /-- The first one. -/
  first : ℕ
  /-- The last one. -/
  last : ℕ
  /-- The distance between neighbours. -/
  step : ℕ

/-- Whether a code point is in a run. -/
def CodeRun.has (r : CodeRun) (n : ℕ) : Bool :=
  r.first ≤ n && n ≤ r.last && (n - r.first) % r.step == 0

/-- The letters, as ranges. -/
def alphaRanges : List (ℕ × ℕ) :=
  [(65, 90), (97, 122), (170, 170), (181, 181), (186, 186), (192, 214), (216, 246), (248, 705),
    (710, 721), (736, 740), (748, 748), (750, 750), (880, 884), (886, 887), (890, 893), (895, 895),
    (902, 902), (904, 906), (908, 908), (910, 929), (931, 1013), (1015, 1153), (1162, 1327),
    (1329, 1366), (1369, 1369), (1376, 1416), (1488, 1514), (1519, 1522), (1568, 1610),
    (1646, 1647), (1649, 1747), (1749, 1749), (1765, 1766), (1774, 1775), (1786, 1788),
    (1791, 1791), (1808, 1808), (1810, 1839), (1869, 1957), (1969, 1969), (1994, 2026),
    (2036, 2037), (2042, 2042), (2048, 2069), (2074, 2074), (2084, 2084), (2088, 2088),
    (2112, 2136), (2144, 2154), (2160, 2183), (2185, 2190), (2208, 2249), (2308, 2361),
    (2365, 2365), (2384, 2384), (2392, 2401), (2417, 2432), (2437, 2444), (2447, 2448),
    (2451, 2472), (2474, 2480), (2482, 2482), (2486, 2489), (2493, 2493), (2510, 2510),
    (2524, 2525), (2527, 2529), (2544, 2545), (2556, 2556), (2565, 2570), (2575, 2576),
    (2579, 2600), (2602, 2608), (2610, 2611), (2613, 2614), (2616, 2617), (2649, 2652),
    (2654, 2654), (2674, 2676), (2693, 2701), (2703, 2705), (2707, 2728), (2730, 2736),
    (2738, 2739), (2741, 2745), (2749, 2749), (2768, 2768), (2784, 2785), (2809, 2809),
    (2821, 2828), (2831, 2832), (2835, 2856), (2858, 2864), (2866, 2867), (2869, 2873),
    (2877, 2877), (2908, 2909), (2911, 2913), (2929, 2929), (2947, 2947), (2949, 2954),
    (2958, 2960), (2962, 2965), (2969, 2970), (2972, 2972), (2974, 2975), (2979, 2980),
    (2984, 2986), (2990, 3001), (3024, 3024), (3077, 3084), (3086, 3088), (3090, 3112),
    (3114, 3129), (3133, 3133), (3160, 3162), (3165, 3165), (3168, 3169), (3200, 3200),
    (3205, 3212), (3214, 3216), (3218, 3240), (3242, 3251), (3253, 3257), (3261, 3261),
    (3293, 3294), (3296, 3297), (3313, 3314), (3332, 3340), (3342, 3344), (3346, 3386),
    (3389, 3389), (3406, 3406), (3412, 3414), (3423, 3425), (3450, 3455), (3461, 3478),
    (3482, 3505), (3507, 3515), (3517, 3517), (3520, 3526), (3585, 3632), (3634, 3635),
    (3648, 3654), (3713, 3714), (3716, 3716), (3718, 3722), (3724, 3747), (3749, 3749),
    (3751, 3760), (3762, 3763), (3773, 3773), (3776, 3780), (3782, 3782), (3804, 3807),
    (3840, 3840), (3904, 3911), (3913, 3948), (3976, 3980), (4096, 4138), (4159, 4159),
    (4176, 4181), (4186, 4189), (4193, 4193), (4197, 4198), (4206, 4208), (4213, 4225),
    (4238, 4238), (4256, 4293), (4295, 4295), (4301, 4301), (4304, 4346), (4348, 4680),
    (4682, 4685), (4688, 4694), (4696, 4696), (4698, 4701), (4704, 4744), (4746, 4749),
    (4752, 4784), (4786, 4789), (4792, 4798), (4800, 4800), (4802, 4805), (4808, 4822),
    (4824, 4880), (4882, 4885), (4888, 4954), (4992, 5007), (5024, 5109), (5112, 5117),
    (5121, 5740), (5743, 5759), (5761, 5786), (5792, 5866), (5873, 5880), (5888, 5905),
    (5919, 5937), (5952, 5969), (5984, 5996), (5998, 6000), (6016, 6067), (6103, 6103),
    (6108, 6108), (6176, 6264), (6272, 6276), (6279, 6312), (6314, 6314), (6320, 6389),
    (6400, 6430), (6480, 6509), (6512, 6516), (6528, 6571), (6576, 6601), (6656, 6678),
    (6688, 6740), (6823, 6823), (6917, 6963), (6981, 6988), (7043, 7072), (7086, 7087),
    (7098, 7141), (7168, 7203), (7245, 7247), (7258, 7293), (7296, 7304), (7312, 7354),
    (7357, 7359), (7401, 7404), (7406, 7411), (7413, 7414), (7418, 7418), (7424, 7615),
    (7680, 7957), (7960, 7965), (7968, 8005), (8008, 8013), (8016, 8023), (8025, 8025),
    (8027, 8027), (8029, 8029), (8031, 8061), (8064, 8116), (8118, 8124), (8126, 8126),
    (8130, 8132), (8134, 8140), (8144, 8147), (8150, 8155), (8160, 8172), (8178, 8180),
    (8182, 8188), (8305, 8305), (8319, 8319), (8336, 8348), (8450, 8450), (8455, 8455),
    (8458, 8467), (8469, 8469), (8473, 8477), (8484, 8484), (8486, 8486), (8488, 8488),
    (8490, 8493), (8495, 8505), (8508, 8511), (8517, 8521), (8526, 8526), (8579, 8580),
    (11264, 11492), (11499, 11502), (11506, 11507), (11520, 11557), (11559, 11559), (11565, 11565),
    (11568, 11623), (11631, 11631), (11648, 11670), (11680, 11686), (11688, 11694), (11696, 11702),
    (11704, 11710), (11712, 11718), (11720, 11726), (11728, 11734), (11736, 11742), (11823, 11823),
    (12293, 12294), (12337, 12341), (12347, 12348), (12353, 12438), (12445, 12447), (12449, 12538),
    (12540, 12543), (12549, 12591), (12593, 12686), (12704, 12735), (12784, 12799), (13312, 19903),
    (19968, 42124), (42192, 42237), (42240, 42508), (42512, 42527), (42538, 42539), (42560, 42606),
    (42623, 42653), (42656, 42725), (42775, 42783), (42786, 42888), (42891, 42954), (42960, 42961),
    (42963, 42963), (42965, 42969), (42994, 43009), (43011, 43013), (43015, 43018), (43020, 43042),
    (43072, 43123), (43138, 43187), (43250, 43255), (43259, 43259), (43261, 43262), (43274, 43301),
    (43312, 43334), (43360, 43388), (43396, 43442), (43471, 43471), (43488, 43492), (43494, 43503),
    (43514, 43518), (43520, 43560), (43584, 43586), (43588, 43595), (43616, 43638), (43642, 43642),
    (43646, 43695), (43697, 43697), (43701, 43702), (43705, 43709), (43712, 43712), (43714, 43714),
    (43739, 43741), (43744, 43754), (43762, 43764), (43777, 43782), (43785, 43790), (43793, 43798),
    (43808, 43814), (43816, 43822), (43824, 43866), (43868, 43881), (43888, 44002), (44032, 55203),
    (55216, 55238), (55243, 55291), (63744, 64109), (64112, 64217), (64256, 64262), (64275, 64279),
    (64285, 64285), (64287, 64296), (64298, 64310), (64312, 64316), (64318, 64318), (64320, 64321),
    (64323, 64324), (64326, 64433), (64467, 64829), (64848, 64911), (64914, 64967), (65008, 65019),
    (65136, 65140), (65142, 65276), (65313, 65338), (65345, 65370), (65382, 65470), (65474, 65479),
    (65482, 65487), (65490, 65495), (65498, 65500), (65536, 65547), (65549, 65574), (65576, 65594),
    (65596, 65597), (65599, 65613), (65616, 65629), (65664, 65786), (66176, 66204), (66208, 66256),
    (66304, 66335), (66349, 66368), (66370, 66377), (66384, 66421), (66432, 66461), (66464, 66499),
    (66504, 66511), (66560, 66717), (66736, 66771), (66776, 66811), (66816, 66855), (66864, 66915),
    (66928, 66938), (66940, 66954), (66956, 66962), (66964, 66965), (66967, 66977), (66979, 66993),
    (66995, 67001), (67003, 67004), (67072, 67382), (67392, 67413), (67424, 67431), (67456, 67461),
    (67463, 67504), (67506, 67514), (67584, 67589), (67592, 67592), (67594, 67637), (67639, 67640),
    (67644, 67644), (67647, 67669), (67680, 67702), (67712, 67742), (67808, 67826), (67828, 67829),
    (67840, 67861), (67872, 67897), (67968, 68023), (68030, 68031), (68096, 68096), (68112, 68115),
    (68117, 68119), (68121, 68149), (68192, 68220), (68224, 68252), (68288, 68295), (68297, 68324),
    (68352, 68405), (68416, 68437), (68448, 68466), (68480, 68497), (68608, 68680), (68736, 68786),
    (68800, 68850), (68864, 68899), (69248, 69289), (69296, 69297), (69376, 69404), (69415, 69415),
    (69424, 69445), (69488, 69505), (69552, 69572), (69600, 69622), (69635, 69687), (69745, 69746),
    (69749, 69749), (69763, 69807), (69840, 69864), (69891, 69926), (69956, 69956), (69959, 69959),
    (69968, 70002), (70006, 70006), (70019, 70066), (70081, 70084), (70106, 70106), (70108, 70108),
    (70144, 70161), (70163, 70187), (70207, 70208), (70272, 70278), (70280, 70280), (70282, 70285),
    (70287, 70301), (70303, 70312), (70320, 70366), (70405, 70412), (70415, 70416), (70419, 70440),
    (70442, 70448), (70450, 70451), (70453, 70457), (70461, 70461), (70480, 70480), (70493, 70497),
    (70656, 70708), (70727, 70730), (70751, 70753), (70784, 70831), (70852, 70853), (70855, 70855),
    (71040, 71086), (71128, 71131), (71168, 71215), (71236, 71236), (71296, 71338), (71352, 71352),
    (71424, 71450), (71488, 71494), (71680, 71723), (71840, 71903), (71935, 71942), (71945, 71945),
    (71948, 71955), (71957, 71958), (71960, 71983), (71999, 71999), (72001, 72001), (72096, 72103),
    (72106, 72144), (72161, 72161), (72163, 72163), (72192, 72192), (72203, 72242), (72250, 72250),
    (72272, 72272), (72284, 72329), (72349, 72349), (72368, 72440), (72704, 72712), (72714, 72750),
    (72768, 72768), (72818, 72847), (72960, 72966), (72968, 72969), (72971, 73008), (73030, 73030),
    (73056, 73061), (73063, 73064), (73066, 73097), (73112, 73112), (73440, 73458), (73474, 73474),
    (73476, 73488), (73490, 73523), (73648, 73648), (73728, 74649), (74880, 75075), (77712, 77808),
    (77824, 78895), (78913, 78918), (82944, 83526), (92160, 92728), (92736, 92766), (92784, 92862),
    (92880, 92909), (92928, 92975), (92992, 92995), (93027, 93047), (93053, 93071), (93760, 93823),
    (93952, 94026), (94032, 94032), (94099, 94111), (94176, 94177), (94179, 94179),
    (94208, 100343), (100352, 101589), (101632, 101640), (110576, 110579), (110581, 110587),
    (110589, 110590), (110592, 110882), (110898, 110898), (110928, 110930), (110933, 110933),
    (110948, 110951), (110960, 111355), (113664, 113770), (113776, 113788), (113792, 113800),
    (113808, 113817), (119808, 119892), (119894, 119964), (119966, 119967), (119970, 119970),
    (119973, 119974), (119977, 119980), (119982, 119993), (119995, 119995), (119997, 120003),
    (120005, 120069), (120071, 120074), (120077, 120084), (120086, 120092), (120094, 120121),
    (120123, 120126), (120128, 120132), (120134, 120134), (120138, 120144), (120146, 120485),
    (120488, 120512), (120514, 120538), (120540, 120570), (120572, 120596), (120598, 120628),
    (120630, 120654), (120656, 120686), (120688, 120712), (120714, 120744), (120746, 120770),
    (120772, 120779), (122624, 122654), (122661, 122666), (122928, 122989), (123136, 123180),
    (123191, 123197), (123214, 123214), (123536, 123565), (123584, 123627), (124112, 124139),
    (124896, 124902), (124904, 124907), (124909, 124910), (124912, 124926), (124928, 125124),
    (125184, 125251), (125259, 125259), (126464, 126467), (126469, 126495), (126497, 126498),
    (126500, 126500), (126503, 126503), (126505, 126514), (126516, 126519), (126521, 126521),
    (126523, 126523), (126530, 126530), (126535, 126535), (126537, 126537), (126539, 126539),
    (126541, 126543), (126545, 126546), (126548, 126548), (126551, 126551), (126553, 126553),
    (126555, 126555), (126557, 126557), (126559, 126559), (126561, 126562), (126564, 126564),
    (126567, 126570), (126572, 126578), (126580, 126583), (126585, 126588), (126590, 126590),
    (126592, 126601), (126603, 126619), (126625, 126627), (126629, 126633), (126635, 126651),
    (131072, 173791), (173824, 177977), (177984, 178205), (178208, 183969), (183984, 191456),
    (194560, 195101), (196608, 201546), (201552, 205743)]

/-- The upper-case letters. -/
def upperRuns : List CodeRun :=
  [⟨65, 90, 1⟩, ⟨192, 214, 1⟩, ⟨216, 222, 1⟩, ⟨256, 310, 2⟩, ⟨313, 327, 2⟩, ⟨330, 376, 2⟩,
    ⟨377, 381, 2⟩, ⟨385, 386, 1⟩, ⟨388, 390, 2⟩, ⟨391, 393, 2⟩, ⟨394, 395, 1⟩, ⟨398, 401, 1⟩,
    ⟨403, 404, 1⟩, ⟨406, 408, 1⟩, ⟨412, 413, 1⟩, ⟨415, 416, 1⟩, ⟨418, 422, 2⟩, ⟨423, 425, 2⟩,
    ⟨428, 430, 2⟩, ⟨431, 433, 2⟩, ⟨434, 435, 1⟩, ⟨437, 439, 2⟩, ⟨440, 440, 2⟩, ⟨444, 444, 2⟩,
    ⟨452, 452, 2⟩, ⟨455, 455, 2⟩, ⟨458, 458, 2⟩, ⟨461, 475, 2⟩, ⟨478, 494, 2⟩, ⟨497, 497, 2⟩,
    ⟨500, 502, 2⟩, ⟨503, 504, 1⟩, ⟨506, 562, 2⟩, ⟨570, 571, 1⟩, ⟨573, 574, 1⟩, ⟨577, 579, 2⟩,
    ⟨580, 582, 1⟩, ⟨584, 590, 2⟩, ⟨880, 882, 2⟩, ⟨886, 886, 2⟩, ⟨895, 895, 2⟩, ⟨902, 902, 2⟩,
    ⟨904, 904, 2⟩, ⟨905, 906, 1⟩, ⟨908, 908, 2⟩, ⟨910, 910, 2⟩, ⟨911, 913, 2⟩, ⟨914, 929, 1⟩,
    ⟨931, 939, 1⟩, ⟨975, 975, 2⟩, ⟨978, 980, 1⟩, ⟨984, 1006, 2⟩, ⟨1012, 1012, 2⟩, ⟨1015, 1017, 2⟩,
    ⟨1018, 1018, 2⟩, ⟨1021, 1071, 1⟩, ⟨1120, 1152, 2⟩, ⟨1162, 1216, 2⟩, ⟨1217, 1229, 2⟩,
    ⟨1232, 1326, 2⟩, ⟨1329, 1366, 1⟩, ⟨4256, 4293, 1⟩, ⟨4295, 4295, 2⟩, ⟨4301, 4301, 2⟩,
    ⟨5024, 5109, 1⟩, ⟨7312, 7354, 1⟩, ⟨7357, 7359, 1⟩, ⟨7680, 7828, 2⟩, ⟨7838, 7934, 2⟩,
    ⟨7944, 7951, 1⟩, ⟨7960, 7965, 1⟩, ⟨7976, 7983, 1⟩, ⟨7992, 7999, 1⟩, ⟨8008, 8013, 1⟩,
    ⟨8025, 8025, 2⟩, ⟨8027, 8027, 2⟩, ⟨8029, 8029, 2⟩, ⟨8031, 8031, 2⟩, ⟨8040, 8047, 1⟩,
    ⟨8120, 8123, 1⟩, ⟨8136, 8139, 1⟩, ⟨8152, 8155, 1⟩, ⟨8168, 8172, 1⟩, ⟨8184, 8187, 1⟩,
    ⟨8450, 8450, 2⟩, ⟨8455, 8455, 2⟩, ⟨8459, 8461, 1⟩, ⟨8464, 8466, 1⟩, ⟨8469, 8469, 2⟩,
    ⟨8473, 8477, 1⟩, ⟨8484, 8484, 2⟩, ⟨8486, 8486, 2⟩, ⟨8488, 8488, 2⟩, ⟨8490, 8490, 2⟩,
    ⟨8491, 8493, 1⟩, ⟨8496, 8499, 1⟩, ⟨8510, 8511, 1⟩, ⟨8517, 8517, 2⟩, ⟨8579, 8579, 2⟩,
    ⟨11264, 11311, 1⟩, ⟨11360, 11362, 2⟩, ⟨11363, 11364, 1⟩, ⟨11367, 11373, 2⟩, ⟨11374, 11376, 1⟩,
    ⟨11378, 11378, 2⟩, ⟨11381, 11381, 2⟩, ⟨11390, 11392, 1⟩, ⟨11394, 11490, 2⟩, ⟨11499, 11501, 2⟩,
    ⟨11506, 11506, 2⟩, ⟨42560, 42604, 2⟩, ⟨42624, 42650, 2⟩, ⟨42786, 42798, 2⟩, ⟨42802, 42862, 2⟩,
    ⟨42873, 42877, 2⟩, ⟨42878, 42886, 2⟩, ⟨42891, 42893, 2⟩, ⟨42896, 42898, 2⟩, ⟨42902, 42922, 2⟩,
    ⟨42923, 42926, 1⟩, ⟨42928, 42932, 1⟩, ⟨42934, 42948, 2⟩, ⟨42949, 42951, 1⟩, ⟨42953, 42953, 2⟩,
    ⟨42960, 42960, 2⟩, ⟨42966, 42968, 2⟩, ⟨42997, 42997, 2⟩, ⟨65313, 65338, 1⟩, ⟨66560, 66599, 1⟩,
    ⟨66736, 66771, 1⟩, ⟨66928, 66938, 1⟩, ⟨66940, 66954, 1⟩, ⟨66956, 66962, 1⟩, ⟨66964, 66965, 1⟩,
    ⟨68736, 68786, 1⟩, ⟨71840, 71871, 1⟩, ⟨93760, 93791, 1⟩, ⟨119808, 119833, 1⟩,
    ⟨119860, 119885, 1⟩, ⟨119912, 119937, 1⟩, ⟨119964, 119964, 2⟩, ⟨119966, 119966, 2⟩,
    ⟨119967, 119967, 2⟩, ⟨119970, 119970, 2⟩, ⟨119973, 119974, 1⟩, ⟨119977, 119980, 1⟩,
    ⟨119982, 119989, 1⟩, ⟨120016, 120041, 1⟩, ⟨120068, 120069, 1⟩, ⟨120071, 120074, 1⟩,
    ⟨120077, 120084, 1⟩, ⟨120086, 120092, 1⟩, ⟨120120, 120121, 1⟩, ⟨120123, 120126, 1⟩,
    ⟨120128, 120132, 1⟩, ⟨120134, 120134, 2⟩, ⟨120138, 120144, 1⟩, ⟨120172, 120197, 1⟩,
    ⟨120224, 120249, 1⟩, ⟨120276, 120301, 1⟩, ⟨120328, 120353, 1⟩, ⟨120380, 120405, 1⟩,
    ⟨120432, 120457, 1⟩, ⟨120488, 120512, 1⟩, ⟨120546, 120570, 1⟩, ⟨120604, 120628, 1⟩,
    ⟨120662, 120686, 1⟩, ⟨120720, 120744, 1⟩, ⟨120778, 120778, 2⟩, ⟨125184, 125217, 1⟩]

/-- The letters whose upper-case form is one other character, with the distance to it. -/
def upperRules : List (CodeRun × ℤ) :=
  [(⟨97, 122, 1⟩, -32), (⟨181, 181, 2⟩, 743), (⟨224, 246, 1⟩, -32), (⟨248, 254, 1⟩, -32),
    (⟨255, 255, 2⟩, 121), (⟨257, 303, 2⟩, -1), (⟨305, 305, 2⟩, -232), (⟨307, 311, 2⟩, -1),
    (⟨314, 328, 2⟩, -1), (⟨331, 375, 2⟩, -1), (⟨378, 382, 2⟩, -1), (⟨383, 383, 2⟩, -300),
    (⟨384, 384, 2⟩, 195), (⟨387, 389, 2⟩, -1), (⟨392, 392, 2⟩, -1), (⟨396, 396, 2⟩, -1),
    (⟨402, 402, 2⟩, -1), (⟨405, 405, 2⟩, 97), (⟨409, 409, 2⟩, -1), (⟨410, 410, 2⟩, 163),
    (⟨414, 414, 2⟩, 130), (⟨417, 421, 2⟩, -1), (⟨424, 424, 2⟩, -1), (⟨429, 429, 2⟩, -1),
    (⟨432, 432, 2⟩, -1), (⟨436, 438, 2⟩, -1), (⟨441, 441, 2⟩, -1), (⟨445, 445, 2⟩, -1),
    (⟨447, 447, 2⟩, 56), (⟨453, 453, 2⟩, -1), (⟨454, 454, 2⟩, -2), (⟨456, 456, 2⟩, -1),
    (⟨457, 457, 2⟩, -2), (⟨459, 459, 2⟩, -1), (⟨460, 460, 2⟩, -2), (⟨462, 476, 2⟩, -1),
    (⟨477, 477, 2⟩, -79), (⟨479, 495, 2⟩, -1), (⟨498, 498, 2⟩, -1), (⟨499, 499, 2⟩, -2),
    (⟨501, 501, 2⟩, -1), (⟨505, 543, 2⟩, -1), (⟨547, 563, 2⟩, -1), (⟨572, 572, 2⟩, -1),
    (⟨575, 576, 1⟩, 10815), (⟨578, 578, 2⟩, -1), (⟨583, 591, 2⟩, -1), (⟨592, 592, 2⟩, 10783),
    (⟨593, 593, 2⟩, 10780), (⟨594, 594, 2⟩, 10782), (⟨595, 595, 2⟩, -210), (⟨596, 596, 2⟩, -206),
    (⟨598, 599, 1⟩, -205), (⟨601, 601, 2⟩, -202), (⟨603, 603, 2⟩, -203), (⟨604, 604, 2⟩, 42319),
    (⟨608, 608, 2⟩, -205), (⟨609, 609, 2⟩, 42315), (⟨611, 611, 2⟩, -207), (⟨613, 613, 2⟩, 42280),
    (⟨614, 614, 2⟩, 42308), (⟨616, 616, 2⟩, -209), (⟨617, 617, 2⟩, -211), (⟨618, 618, 2⟩, 42308),
    (⟨619, 619, 2⟩, 10743), (⟨620, 620, 2⟩, 42305), (⟨623, 623, 2⟩, -211), (⟨625, 625, 2⟩, 10749),
    (⟨626, 626, 2⟩, -213), (⟨629, 629, 2⟩, -214), (⟨637, 637, 2⟩, 10727), (⟨640, 640, 2⟩, -218),
    (⟨642, 642, 2⟩, 42307), (⟨643, 643, 2⟩, -218), (⟨647, 647, 2⟩, 42282), (⟨648, 648, 2⟩, -218),
    (⟨649, 649, 2⟩, -69), (⟨650, 651, 1⟩, -217), (⟨652, 652, 2⟩, -71), (⟨658, 658, 2⟩, -219),
    (⟨669, 669, 2⟩, 42261), (⟨670, 670, 2⟩, 42258), (⟨837, 837, 2⟩, 84), (⟨881, 883, 2⟩, -1),
    (⟨887, 887, 2⟩, -1), (⟨891, 893, 1⟩, 130), (⟨940, 940, 2⟩, -38), (⟨941, 943, 1⟩, -37),
    (⟨945, 961, 1⟩, -32), (⟨962, 962, 2⟩, -31), (⟨963, 971, 1⟩, -32), (⟨972, 972, 2⟩, -64),
    (⟨973, 974, 1⟩, -63), (⟨976, 976, 2⟩, -62), (⟨977, 977, 2⟩, -57), (⟨981, 981, 2⟩, -47),
    (⟨982, 982, 2⟩, -54), (⟨983, 983, 2⟩, -8), (⟨985, 1007, 2⟩, -1), (⟨1008, 1008, 2⟩, -86),
    (⟨1009, 1009, 2⟩, -80), (⟨1010, 1010, 2⟩, 7), (⟨1011, 1011, 2⟩, -116), (⟨1013, 1013, 2⟩, -96),
    (⟨1016, 1016, 2⟩, -1), (⟨1019, 1019, 2⟩, -1), (⟨1072, 1103, 1⟩, -32), (⟨1104, 1119, 1⟩, -80),
    (⟨1121, 1153, 2⟩, -1), (⟨1163, 1215, 2⟩, -1), (⟨1218, 1230, 2⟩, -1), (⟨1231, 1231, 2⟩, -15),
    (⟨1233, 1327, 2⟩, -1), (⟨1377, 1414, 1⟩, -48), (⟨4304, 4346, 1⟩, 3008),
    (⟨4349, 4351, 1⟩, 3008), (⟨5112, 5117, 1⟩, -8), (⟨7296, 7296, 2⟩, -6254),
    (⟨7297, 7297, 2⟩, -6253), (⟨7298, 7298, 2⟩, -6244), (⟨7299, 7300, 1⟩, -6242),
    (⟨7301, 7301, 2⟩, -6243), (⟨7302, 7302, 2⟩, -6236), (⟨7303, 7303, 2⟩, -6181),
    (⟨7304, 7304, 2⟩, 35266), (⟨7545, 7545, 2⟩, 35332), (⟨7549, 7549, 2⟩, 3814),
    (⟨7566, 7566, 2⟩, 35384), (⟨7681, 7829, 2⟩, -1), (⟨7835, 7835, 2⟩, -59), (⟨7841, 7935, 2⟩, -1),
    (⟨7936, 7943, 1⟩, 8), (⟨7952, 7957, 1⟩, 8), (⟨7968, 7975, 1⟩, 8), (⟨7984, 7991, 1⟩, 8),
    (⟨8000, 8005, 1⟩, 8), (⟨8017, 8023, 2⟩, 8), (⟨8032, 8039, 1⟩, 8), (⟨8048, 8049, 1⟩, 74),
    (⟨8050, 8053, 1⟩, 86), (⟨8054, 8055, 1⟩, 100), (⟨8056, 8057, 1⟩, 128), (⟨8058, 8059, 1⟩, 112),
    (⟨8060, 8061, 1⟩, 126), (⟨8112, 8113, 1⟩, 8), (⟨8126, 8126, 2⟩, -7205), (⟨8144, 8145, 1⟩, 8),
    (⟨8160, 8161, 1⟩, 8), (⟨8165, 8165, 2⟩, 7), (⟨8526, 8526, 2⟩, -28), (⟨8560, 8575, 1⟩, -16),
    (⟨8580, 8580, 2⟩, -1), (⟨9424, 9449, 1⟩, -26), (⟨11312, 11359, 1⟩, -48),
    (⟨11361, 11361, 2⟩, -1), (⟨11365, 11365, 2⟩, -10795), (⟨11366, 11366, 2⟩, -10792),
    (⟨11368, 11372, 2⟩, -1), (⟨11379, 11379, 2⟩, -1), (⟨11382, 11382, 2⟩, -1),
    (⟨11393, 11491, 2⟩, -1), (⟨11500, 11502, 2⟩, -1), (⟨11507, 11507, 2⟩, -1),
    (⟨11520, 11557, 1⟩, -7264), (⟨11559, 11559, 2⟩, -7264), (⟨11565, 11565, 2⟩, -7264),
    (⟨42561, 42605, 2⟩, -1), (⟨42625, 42651, 2⟩, -1), (⟨42787, 42799, 2⟩, -1),
    (⟨42803, 42863, 2⟩, -1), (⟨42874, 42876, 2⟩, -1), (⟨42879, 42887, 2⟩, -1),
    (⟨42892, 42892, 2⟩, -1), (⟨42897, 42899, 2⟩, -1), (⟨42900, 42900, 2⟩, 48),
    (⟨42903, 42921, 2⟩, -1), (⟨42933, 42947, 2⟩, -1), (⟨42952, 42954, 2⟩, -1),
    (⟨42961, 42961, 2⟩, -1), (⟨42967, 42969, 2⟩, -1), (⟨42998, 42998, 2⟩, -1),
    (⟨43859, 43859, 2⟩, -928), (⟨43888, 43967, 1⟩, -38864), (⟨65345, 65370, 1⟩, -32),
    (⟨66600, 66639, 1⟩, -40), (⟨66776, 66811, 1⟩, -40), (⟨66967, 66977, 1⟩, -39),
    (⟨66979, 66993, 1⟩, -39), (⟨66995, 67001, 1⟩, -39), (⟨67003, 67004, 1⟩, -39),
    (⟨68800, 68850, 1⟩, -64), (⟨71872, 71903, 1⟩, -32), (⟨93792, 93823, 1⟩, -32),
    (⟨125218, 125251, 1⟩, -34)]

/-- The characters whose upper-case form is several characters long. -/
def specialUpper : List (ℕ × List ℕ) :=
  [(223, [83, 83]), (329, [700, 78]), (496, [74, 780]), (912, [921, 776, 769]),
    (944, [933, 776, 769]), (1415, [1333, 1362]), (7830, [72, 817]), (7831, [84, 776]),
    (7832, [87, 778]), (7833, [89, 778]), (7834, [65, 702]), (8016, [933, 787]),
    (8018, [933, 787, 768]), (8020, [933, 787, 769]), (8022, [933, 787, 834]), (8064, [7944, 921]),
    (8065, [7945, 921]), (8066, [7946, 921]), (8067, [7947, 921]), (8068, [7948, 921]),
    (8069, [7949, 921]), (8070, [7950, 921]), (8071, [7951, 921]), (8072, [7944, 921]),
    (8073, [7945, 921]), (8074, [7946, 921]), (8075, [7947, 921]), (8076, [7948, 921]),
    (8077, [7949, 921]), (8078, [7950, 921]), (8079, [7951, 921]), (8080, [7976, 921]),
    (8081, [7977, 921]), (8082, [7978, 921]), (8083, [7979, 921]), (8084, [7980, 921]),
    (8085, [7981, 921]), (8086, [7982, 921]), (8087, [7983, 921]), (8088, [7976, 921]),
    (8089, [7977, 921]), (8090, [7978, 921]), (8091, [7979, 921]), (8092, [7980, 921]),
    (8093, [7981, 921]), (8094, [7982, 921]), (8095, [7983, 921]), (8096, [8040, 921]),
    (8097, [8041, 921]), (8098, [8042, 921]), (8099, [8043, 921]), (8100, [8044, 921]),
    (8101, [8045, 921]), (8102, [8046, 921]), (8103, [8047, 921]), (8104, [8040, 921]),
    (8105, [8041, 921]), (8106, [8042, 921]), (8107, [8043, 921]), (8108, [8044, 921]),
    (8109, [8045, 921]), (8110, [8046, 921]), (8111, [8047, 921]), (8114, [8122, 921]),
    (8115, [913, 921]), (8116, [902, 921]), (8118, [913, 834]), (8119, [913, 834, 921]),
    (8124, [913, 921]), (8130, [8138, 921]), (8131, [919, 921]), (8132, [905, 921]),
    (8134, [919, 834]), (8135, [919, 834, 921]), (8140, [919, 921]), (8146, [921, 776, 768]),
    (8147, [921, 776, 769]), (8150, [921, 834]), (8151, [921, 776, 834]), (8162, [933, 776, 768]),
    (8163, [933, 776, 769]), (8164, [929, 787]), (8166, [933, 834]), (8167, [933, 776, 834]),
    (8178, [8186, 921]), (8179, [937, 921]), (8180, [911, 921]), (8182, [937, 834]),
    (8183, [937, 834, 921]), (8188, [937, 921]), (64256, [70, 70]), (64257, [70, 73]),
    (64258, [70, 76]), (64259, [70, 70, 73]), (64260, [70, 70, 76]), (64261, [83, 84]),
    (64262, [83, 84]), (64275, [1348, 1350]), (64276, [1348, 1333]), (64277, [1348, 1339]),
    (64278, [1358, 1350]), (64279, [1348, 1341])]

/-! ## The methods -/

/-- Whether a character is a letter. -/
def isLetter (c : Char) : Bool := alphaRanges.any fun r => r.1 ≤ c.toNat && c.toNat ≤ r.2

/-- Whether a character is an upper-case letter. -/
def isUpper (c : Char) : Bool := upperRuns.any fun r => r.has c.toNat

/-- The upper-case form of a character. An upper-case letter is its own. -/
def upperChar (c : Char) : List Char :=
  if isUpper c then [c]
  else match specialUpper.lookup c.toNat with
    | some form => form.map Char.ofNat
    | none =>
      match upperRules.find? fun rule => rule.1.has c.toNat with
      | some rule => [Char.ofNat (c.toNat + rule.2).toNat]
      | none => [c]

/-- `str.isalpha`: not empty, and only letters. -/
def isAlpha (s : String) : Bool := s ≠ "" && s.toList.all isLetter

/-- `str.upper`. -/
def upper (s : String) : String := String.ofList (s.toList.flatMap upperChar)

example : upper "inr" = "INR" := by decide +kernel

example : upper "ßa" = "SSA" := by decide +kernel

/-! ## The tables fit together -/

/-- The mapping leaves an upper-case letter alone. -/
theorem upperChar_of_isUpper {c : Char} (h : isUpper c = true) : upperChar c = [c] := if_pos h

/-- An upper-case form is not empty. -/
theorem upperChar_ne_nil (c : Char) : upperChar c ≠ [] := by
  have htables : ∀ s ∈ specialUpper, s.2 ≠ [] := by decide +kernel
  unfold upperChar
  split
  · exact List.cons_ne_nil _ _
  · split
    · rename_i form hform
      obtain ⟨before, after, heq, _⟩ := List.lookup_eq_some_iff.1 hform
      rw [ne_eq, List.map_eq_nil_iff]
      exact htables (c.toNat, form) (by rw [heq]; simp)
    · split <;> exact List.cons_ne_nil _ _

/-- The runs that are left when those at the front that lie in one of the ranges are dropped, range by
range. -/
def uncovered (ranges : List (ℕ × ℕ)) (runs : List CodeRun) : List CodeRun :=
  ranges.foldl (fun rest a => rest.dropWhile fun r => a.1 ≤ r.first && r.last ≤ a.2) runs

/-- Runs that are dropped lie in a range. -/
theorem exists_range_of_uncovered {ranges : List (ℕ × ℕ)} {runs : List CodeRun}
    (h : uncovered ranges runs = []) :
    ∀ r ∈ runs, ∃ a ∈ ranges, a.1 ≤ r.first ∧ r.last ≤ a.2 := by
  induction ranges generalizing runs with
  | nil =>
    rw [show runs = [] from h]
    exact nofun
  | cons a ranges ih =>
    intro r hr
    let inRange (r : CodeRun) : Bool := a.1 ≤ r.first && r.last ≤ a.2
    have hsplit : runs.takeWhile inRange ++ runs.dropWhile inRange = runs :=
      List.takeWhile_append_dropWhile
    rw [← hsplit, List.mem_append] at hr
    rcases hr with hr | hr
    · have hin := List.mem_takeWhile_imp hr
      simp only [inRange, Bool.and_eq_true, decide_eq_true_eq] at hin
      exact ⟨a, List.mem_cons_self, hin⟩
    · obtain ⟨a', ha', hin⟩ := ih h r hr
      exact ⟨a', List.mem_cons_of_mem _ ha', hin⟩

/-- An upper-case letter is a letter. -/
theorem isLetter_of_isUpper {c : Char} (h : isUpper c = true) : isLetter c = true := by
  have htables : uncovered alphaRanges upperRuns = [] := by decide +kernel
  simp only [isUpper, List.any_eq_true, CodeRun.has, Bool.and_eq_true, decide_eq_true_eq] at h
  obtain ⟨r, hr, ⟨hlow, hhigh⟩, _⟩ := h
  obtain ⟨a, ha, hfirst, hlast⟩ := exists_range_of_uncovered htables r hr
  simp only [isLetter, List.any_eq_true, Bool.and_eq_true, decide_eq_true_eq]
  exact ⟨a, ha, by omega, by omega⟩

/-- An upper-case letter is no blank. -/
theorem isSpace_of_isUpper {c : Char} (h : isUpper c = true) : isSpace c = false := by
  have htables : ∀ r ∈ upperRuns, 32 < r.first ∧ (r.last < 0x85 ∨ 0xa0 < r.first) ∧
      (r.last < 0x1680 ∨ 0x1680 < r.first) ∧ (r.last < 0x2000 ∨ 0x205f < r.first) ∧
      (r.last < 0x3000 ∨ 0x3000 < r.first) := by
    decide +kernel
  simp only [isUpper, List.any_eq_true, CodeRun.has, Bool.and_eq_true, decide_eq_true_eq] at h
  obtain ⟨r, hr, ⟨hlow, hhigh⟩, _⟩ := h
  have := htables r hr
  rw [Bool.eq_false_iff]
  simp only [ne_eq, isSpace, Bool.or_eq_true, Bool.and_eq_true, decide_eq_true_eq, beq_iff_eq]
  omega

/-! ## Texts that stay as they are -/

/-- Stripping drops blanks at both ends. -/
theorem toList_strip (s : String) :
    (strip s).toList = (s.toList.dropWhile isSpace).rdropWhile isSpace := by
  rw [strip, String.toList_ofList]
  rfl

/-- What is left begins as what was left of the blanks in front, and so with no blank. -/
theorem dropWhile_strip (s : String) :
    (strip s).toList.dropWhile isSpace = (strip s).toList := by
  rw [toList_strip, List.dropWhile_eq_self_iff]
  intro hl
  have hinitial := List.rdropWhile_prefix isSpace (s.toList.dropWhile isSpace)
  rw [hinitial.getElem hl]
  exact List.dropWhile_get_zero_not _ _ (hl.trans_le hinitial.length_le)

/-- Stripping takes no more than once. -/
theorem strip_strip (s : String) : strip (strip s) = strip s := by
  apply String.toList_injective
  rw [toList_strip, dropWhile_strip, toList_strip, List.rdropWhile_idempotent]

/-- Stripping does not add characters. -/
theorem length_strip_le (s : String) : (strip s).length ≤ s.length := by
  rw [← String.length_toList, ← String.length_toList, toList_strip]
  exact (List.rdropWhile_prefix _ _).length_le.trans (List.dropWhile_suffix _).length_le

/-- A text without blanks has none to strip. -/
theorem strip_of_not_isSpace {s : String} (h : ∀ c ∈ s.toList, isSpace c = false) : strip s = s := by
  apply String.toList_injective
  have hfront : s.toList.dropWhile isSpace = s.toList := by
    rw [List.dropWhile_eq_self_iff]
    intro hl
    rw [h _ (List.getElem_mem hl)]
    exact Bool.false_ne_true
  have hback : s.toList.rdropWhile isSpace = s.toList := by
    rw [List.rdropWhile_eq_self_iff]
    intro hl
    rw [h _ (List.getLast_mem hl)]
    exact Bool.false_ne_true
  rw [toList_strip, hfront, hback]

/-- A text of upper-case letters is its own upper-case form. -/
theorem upper_of_isUpper {s : String} (h : ∀ c ∈ s.toList, isUpper c = true) : upper s = s := by
  have hsame : ∀ l : List Char, (∀ c ∈ l, isUpper c = true) → l.flatMap upperChar = l := by
    intro l hl
    induction l with
    | nil => rfl
    | cons c l ih =>
      rw [List.flatMap_cons, upperChar_of_isUpper (hl c List.mem_cons_self),
        ih fun c' hc' => hl c' (List.mem_cons_of_mem _ hc')]
      rfl
  rw [upper, hsame _ h, String.ofList_toList]

/-! ## The upper-case form is its own

No table says this, so it is checked: an image of `upperRules` is an upper-case letter, or stands where no
rule reaches. -/

/-- Whether a run reaches between two code points. -/
def CodeRun.meets (r : CodeRun) (low high : ℕ) : Bool := r.first ≤ high && low ≤ r.last

/-- The code points of a run. -/
def CodeRun.codes (r : CodeRun) : List ℕ :=
  List.range' r.first ((r.last - r.first) / r.step + 1) r.step

/-- The least and the greatest image of a rule. -/
def imageBounds (rule : CodeRun × ℤ) : ℕ × ℕ :=
  ((rule.1.first + rule.2).toNat, (rule.1.last + rule.2).toNat)

/-- Whether each image of a rule is in one of the upper-case runs near it. -/
def imagesUpper (rule : CodeRun × ℤ) : Bool :=
  let near := upperRuns.filter fun r => r.meets (imageBounds rule).1 (imageBounds rule).2
  rule.1.codes.all fun n => near.any fun r => r.has (n + rule.2).toNat

/-- Whether the images of a rule stand where no rule reaches. -/
def imagesFree (rule : CodeRun × ℤ) : Bool :=
  (upperRules.all fun rule' => !rule'.1.meets (imageBounds rule).1 (imageBounds rule).2) &&
    specialUpper.all fun s => s.1 < (imageBounds rule).1 || (imageBounds rule).2 < s.1

/-- Whether the images of a rule are characters. -/
def imagesValid (rule : CodeRun × ℤ) : Bool :=
  (imageBounds rule).2 < 0xd800 || 0xdfff < (imageBounds rule).1 && (imageBounds rule).2 < 0x110000

/-- The images of the rules for upper-casing are upper-case, or stay as they are. -/
theorem images_stay : (upperRules.all fun rule => 0 ≤ rule.1.first + rule.2 && imagesValid rule &&
    (imagesUpper rule || imagesFree rule)) = true := by decide +kernel

/-- So do the special upper-case forms. -/
theorem forms_stay : (specialUpper.all fun s => (s.2.map Char.ofNat).all fun c =>
    isUpper c || upperChar c == [c]) = true := by decide +kernel

/-- What a run has is among its codes. -/
theorem CodeRun.mem_codes {r : CodeRun} {n : ℕ} (h : r.has n = true) : n ∈ r.codes := by
  simp only [CodeRun.has, Bool.and_eq_true, decide_eq_true_eq, beq_iff_eq] at h
  obtain ⟨⟨hlow, hhigh⟩, hmod⟩ := h
  have hdiv : r.step * ((n - r.first) / r.step) = n - r.first :=
    Nat.mul_div_cancel' (Nat.dvd_of_mod_eq_zero hmod)
  have hle : (n - r.first) / r.step ≤ (r.last - r.first) / r.step :=
    Nat.div_le_div_right (Nat.sub_le_sub_right hhigh _)
  exact List.mem_range'.2 ⟨(n - r.first) / r.step, Nat.lt_succ_of_le hle, by omega⟩

/-- A run meets a range in which it has a code. -/
theorem CodeRun.meets_of_has {r : CodeRun} {n low high : ℕ} (h : r.has n = true) (hlow : low ≤ n)
    (hhigh : n ≤ high) : r.meets low high = true := by
  simp only [CodeRun.has, Bool.and_eq_true, decide_eq_true_eq] at h
  simp only [CodeRun.meets, Bool.and_eq_true, decide_eq_true_eq]
  omega

/-- A character that no rule speaks of is its own upper-case form. -/
theorem upperChar_of_free {c : Char} (hspecial : ∀ s ∈ specialUpper, s.1 ≠ c.toNat)
    (hrules : ∀ rule ∈ upperRules, rule.1.has c.toNat = false) : upperChar c = [c] := by
  have hlookup : specialUpper.lookup c.toNat = none := by
    rw [List.lookup_eq_none_iff]
    exact fun s hs => bne_iff_ne.2 (hspecial s hs).symm
  have hfind : (upperRules.find? fun rule => rule.1.has c.toNat) = none := by
    rw [List.find?_eq_none]
    exact fun rule hrule => by rw [hrules rule hrule]; exact Bool.false_ne_true
  rw [upperChar, hlookup, hfind]
  split_ifs <;> rfl

/-- An image of a rule is its own upper-case form. -/
theorem upperChar_image {rule : CodeRun × ℤ} (hrule : rule ∈ upperRules) {n : ℕ}
    (hn : rule.1.has n = true) :
    upperChar (Char.ofNat (n + rule.2).toNat) = [Char.ofNat (n + rule.2).toNat] := by
  have hstay := List.all_eq_true.1 images_stay rule hrule
  simp only [Bool.and_eq_true, decide_eq_true_eq, Bool.or_eq_true] at hstay
  obtain ⟨⟨hpos, hvalid⟩, hcase⟩ := hstay
  have hbounds : rule.1.first ≤ n ∧ n ≤ rule.1.last := by
    simp only [CodeRun.has, Bool.and_eq_true, decide_eq_true_eq] at hn
    exact hn.1
  have hlow : (imageBounds rule).1 ≤ (n + rule.2).toNat := by
    unfold imageBounds
    omega
  have hhigh : (n + rule.2).toNat ≤ (imageBounds rule).2 := by
    unfold imageBounds
    omega
  have hchar : (n + rule.2).toNat.isValidChar := by
    simp only [imagesValid, Bool.or_eq_true, Bool.and_eq_true, decide_eq_true_eq] at hvalid
    unfold Nat.isValidChar
    omega
  have htoNat : (Char.ofNat (n + rule.2).toNat).toNat = (n + rule.2).toNat := by
    rw [Char.ofNat, dif_pos hchar]
    rfl
  -- The images of a run of rules are upper-case letters, or no rule and no special case meets them.
  rcases hcase with hupper | hfree
  · refine upperChar_of_isUpper ?_
    have himage := List.all_eq_true.1 hupper n (CodeRun.mem_codes hn)
    obtain ⟨r, hr, hhas⟩ := List.any_eq_true.1 himage
    rw [isUpper, htoNat]
    exact List.any_eq_true.2 ⟨r, (List.mem_filter.1 hr).1, hhas⟩
  · rw [imagesFree, Bool.and_eq_true, List.all_eq_true, List.all_eq_true] at hfree
    refine upperChar_of_free (fun s hs => ?_) fun rule' hrule' => ?_
    · have hout := hfree.2 s hs
      simp only [Bool.or_eq_true, decide_eq_true_eq] at hout
      rw [htoNat]
      omega
    · have hout := hfree.1 rule' hrule'
      rw [Bool.not_eq_true'] at hout
      rw [htoNat, ← Bool.not_eq_true]
      exact fun hhas => Bool.false_ne_true (hout ▸ CodeRun.meets_of_has hhas hlow hhigh)

/-- The characters of an upper-case form stay. -/
theorem upperChar_of_mem_upperChar {c c' : Char} (h : c' ∈ upperChar c) : upperChar c' = [c'] := by
  have hforms := List.all_eq_true.1 forms_stay
  -- As `str.upper` does: an upper-case letter stays, then the special cases, then the rules, else it
  -- stays.
  unfold upperChar at h
  split at h
  case isTrue hc =>
    rw [List.mem_singleton.1 h]
    exact upperChar_of_isUpper hc
  case isFalse hc =>
    split at h
    case h_1 form hform =>
      obtain ⟨before, after, heq, -⟩ := List.lookup_eq_some_iff.1 hform
      have hstay := List.all_eq_true.1 (hforms (c.toNat, form) (by rw [heq]; simp)) c' h
      rw [Bool.or_eq_true, beq_iff_eq] at hstay
      exact hstay.elim upperChar_of_isUpper id
    case h_2 hlookup =>
      split at h
      case h_1 rule hfind =>
        rw [List.mem_singleton.1 h]
        exact upperChar_image (List.mem_of_find?_eq_some hfind)
          (List.find?_some (p := fun rule : CodeRun × ℤ => rule.1.has c.toNat) hfind)
      case h_2 hfind =>
        rw [List.mem_singleton.1 h, upperChar, if_neg hc, hlookup, hfind]

/-- `str.upper` of an upper-case form leaves it as it is. -/
theorem upper_upper (s : String) : upper (upper s) = upper s := by
  have hstay : ∀ c ∈ s.toList.flatMap upperChar, upperChar c = [c] := by
    intro c hc
    obtain ⟨c₀, -, hc₀⟩ := List.mem_flatMap.1 hc
    exact upperChar_of_mem_upperChar hc₀
  have hsame : (s.toList.flatMap upperChar).flatMap upperChar = s.toList.flatMap upperChar :=
    (List.flatMap_congr hstay).trans (List.flatMap_singleton' _)
  rw [upper, upper, String.toList_ofList, hsame]

end PaymentRecon
