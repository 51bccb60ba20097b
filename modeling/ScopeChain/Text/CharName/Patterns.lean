/-
Names of patterns, arrows and operators, and of letters and signs beside them.

A row has the names of characters one behind the other.  In front of each stands how many
words it shares with the name before it.
-/
namespace ScopeChain
namespace CharName

def patterns : List (Nat × String) := [
  (0x2800, "0BRAILLE PATTERN BLANK|2DOTS-1|2DOTS-2|2DOTS-12|2DOTS-3|2DOTS-13|2DOTS-23|2DOTS-123|2DOTS-4|2DOTS-14|2DOTS-24|2DOTS-124|2DOTS-34|2DOTS-134|2DOTS-234"),
  (0x280F, "0BRAILLE PATTERN DOTS-1234|2DOTS-5|2DOTS-15|2DOTS-25|2DOTS-125|2DOTS-35|2DOTS-135|2DOTS-235|2DOTS-1235|2DOTS-45|2DOTS-145|2DOTS-245|2DOTS-1245"),
  (0x281C, "0BRAILLE PATTERN DOTS-345|2DOTS-1345|2DOTS-2345|2DOTS-12345|2DOTS-6|2DOTS-16|2DOTS-26|2DOTS-126|2DOTS-36|2DOTS-136|2DOTS-236|2DOTS-1236|2DOTS-46"),
  (0x2829, "0BRAILLE PATTERN DOTS-146|2DOTS-246|2DOTS-1246|2DOTS-346|2DOTS-1346|2DOTS-2346|2DOTS-12346|2DOTS-56|2DOTS-156|2DOTS-256|2DOTS-1256|2DOTS-356"),
  (0x2835, "0BRAILLE PATTERN DOTS-1356|2DOTS-2356|2DOTS-12356|2DOTS-456|2DOTS-1456|2DOTS-2456|2DOTS-12456|2DOTS-3456|2DOTS-13456|2DOTS-23456|2DOTS-123456|2DOTS-7"),
  (0x2841, "0BRAILLE PATTERN DOTS-17|2DOTS-27|2DOTS-127|2DOTS-37|2DOTS-137|2DOTS-237|2DOTS-1237|2DOTS-47|2DOTS-147|2DOTS-247|2DOTS-1247|2DOTS-347|2DOTS-1347"),
  (0x284E, "0BRAILLE PATTERN DOTS-2347|2DOTS-12347|2DOTS-57|2DOTS-157|2DOTS-257|2DOTS-1257|2DOTS-357|2DOTS-1357|2DOTS-2357|2DOTS-12357|2DOTS-457|2DOTS-1457"),
  (0x285A, "0BRAILLE PATTERN DOTS-2457|2DOTS-12457|2DOTS-3457|2DOTS-13457|2DOTS-23457|2DOTS-123457|2DOTS-67|2DOTS-167|2DOTS-267|2DOTS-1267|2DOTS-367|2DOTS-1367"),
  (0x2866, "0BRAILLE PATTERN DOTS-2367|2DOTS-12367|2DOTS-467|2DOTS-1467|2DOTS-2467|2DOTS-12467|2DOTS-3467|2DOTS-13467|2DOTS-23467|2DOTS-123467|2DOTS-567"),
  (0x2871, "0BRAILLE PATTERN DOTS-1567|2DOTS-2567|2DOTS-12567|2DOTS-3567|2DOTS-13567|2DOTS-23567|2DOTS-123567|2DOTS-4567|2DOTS-14567|2DOTS-24567|2DOTS-124567"),
  (0x287C, "0BRAILLE PATTERN DOTS-34567|2DOTS-134567|2DOTS-234567|2DOTS-1234567|2DOTS-8|2DOTS-18|2DOTS-28|2DOTS-128|2DOTS-38|2DOTS-138|2DOTS-238|2DOTS-1238"),
  (0x2888, "0BRAILLE PATTERN DOTS-48|2DOTS-148|2DOTS-248|2DOTS-1248|2DOTS-348|2DOTS-1348|2DOTS-2348|2DOTS-12348|2DOTS-58|2DOTS-158|2DOTS-258|2DOTS-1258|2DOTS-358"),
  (0x2895, "0BRAILLE PATTERN DOTS-1358|2DOTS-2358|2DOTS-12358|2DOTS-458|2DOTS-1458|2DOTS-2458|2DOTS-12458|2DOTS-3458|2DOTS-13458|2DOTS-23458|2DOTS-123458|2DOTS-68"),
  (0x28A1, "0BRAILLE PATTERN DOTS-168|2DOTS-268|2DOTS-1268|2DOTS-368|2DOTS-1368|2DOTS-2368|2DOTS-12368|2DOTS-468|2DOTS-1468|2DOTS-2468|2DOTS-12468|2DOTS-3468"),
  (0x28AD, "0BRAILLE PATTERN DOTS-13468|2DOTS-23468|2DOTS-123468|2DOTS-568|2DOTS-1568|2DOTS-2568|2DOTS-12568|2DOTS-3568|2DOTS-13568|2DOTS-23568|2DOTS-123568"),
  (0x28B8, "0BRAILLE PATTERN DOTS-4568|2DOTS-14568|2DOTS-24568|2DOTS-124568|2DOTS-34568|2DOTS-134568|2DOTS-234568|2DOTS-1234568|2DOTS-78|2DOTS-178|2DOTS-278"),
  (0x28C3, "0BRAILLE PATTERN DOTS-1278|2DOTS-378|2DOTS-1378|2DOTS-2378|2DOTS-12378|2DOTS-478|2DOTS-1478|2DOTS-2478|2DOTS-12478|2DOTS-3478|2DOTS-13478|2DOTS-23478"),
  (0x28CF, "0BRAILLE PATTERN DOTS-123478|2DOTS-578|2DOTS-1578|2DOTS-2578|2DOTS-12578|2DOTS-3578|2DOTS-13578|2DOTS-23578|2DOTS-123578|2DOTS-4578|2DOTS-14578"),
  (0x28DA, "0BRAILLE PATTERN DOTS-24578|2DOTS-124578|2DOTS-34578|2DOTS-134578|2DOTS-234578|2DOTS-1234578|2DOTS-678|2DOTS-1678|2DOTS-2678|2DOTS-12678|2DOTS-3678"),
  (0x28E5, "0BRAILLE PATTERN DOTS-13678|2DOTS-23678|2DOTS-123678|2DOTS-4678|2DOTS-14678|2DOTS-24678|2DOTS-124678|2DOTS-34678|2DOTS-134678|2DOTS-234678"),
  (0x28EF, "0BRAILLE PATTERN DOTS-1234678|2DOTS-5678|2DOTS-15678|2DOTS-25678|2DOTS-125678|2DOTS-35678|2DOTS-135678|2DOTS-235678|2DOTS-1235678|2DOTS-45678"),
  (0x28F9, "0BRAILLE PATTERN DOTS-145678|2DOTS-245678|2DOTS-1245678|2DOTS-345678|2DOTS-1345678|2DOTS-2345678|2DOTS-12345678"),
  (0x2900, "0RIGHTWARDS TWO-HEADED ARROW WITH VERTICAL STROKE|4DOUBLE VERTICAL STROKE|0LEFTWARDS DOUBLE ARROW WITH VERTICAL STROKE"),
  (0x2903, "0RIGHTWARDS DOUBLE ARROW WITH VERTICAL STROKE|0LEFT RIGHT DOUBLE ARROW WITH VERTICAL STROKE|0RIGHTWARDS TWO-HEADED ARROW FROM BAR"),
  (0x2906, "0LEFTWARDS DOUBLE ARROW FROM BAR|0RIGHTWARDS DOUBLE ARROW FROM BAR|0DOWNWARDS ARROW WITH HORIZONTAL STROKE|0UPWARDS ARROW WITH HORIZONTAL STROKE"),
  (0x290A, "0UPWARDS TRIPLE ARROW|0DOWNWARDS TRIPLE ARROW|0LEFTWARDS DOUBLE DASH ARROW|0RIGHTWARDS DOUBLE DASH ARROW|0LEFTWARDS TRIPLE DASH ARROW"),
  (0x290F, "0RIGHTWARDS TRIPLE DASH ARROW|1TWO-HEADED TRIPLE DASH ARROW|1ARROW WITH DOTTED STEM|0UPWARDS ARROW TO BAR|0DOWNWARDS ARROW TO BAR"),
  (0x2914, "0RIGHTWARDS ARROW WITH TAIL WITH VERTICAL STROKE|5DOUBLE VERTICAL STROKE|1TWO-HEADED ARROW WITH TAIL|5WITH VERTICAL STROKE|6DOUBLE VERTICAL STROKE"),
  (0x2919, "0LEFTWARDS ARROW-TAIL|0RIGHTWARDS ARROW-TAIL|0LEFTWARDS DOUBLE ARROW-TAIL|0RIGHTWARDS DOUBLE ARROW-TAIL|0LEFTWARDS ARROW TO BLACK DIAMOND"),
  (0x291E, "0RIGHTWARDS ARROW TO BLACK DIAMOND|0LEFTWARDS ARROW FROM BAR TO BLACK DIAMOND|0RIGHTWARDS ARROW FROM BAR TO BLACK DIAMOND"),
  (0x2921, "0NORTH WEST AND SOUTH EAST ARROW|1EAST AND SOUTH WEST ARROW|1WEST ARROW WITH HOOK|1EAST ARROW WITH HOOK|0SOUTH EAST ARROW WITH HOOK"),
  (0x2926, "0SOUTH WEST ARROW WITH HOOK|0NORTH WEST ARROW AND NORTH EAST ARROW|1EAST ARROW AND SOUTH EAST ARROW|0SOUTH EAST ARROW AND SOUTH WEST ARROW"),
  (0x292A, "0SOUTH WEST ARROW AND NORTH WEST ARROW|0RISING DIAGONAL CROSSING FALLING DIAGONAL|0FALLING DIAGONAL CROSSING RISING DIAGONAL"),
  (0x292D, "0SOUTH EAST ARROW CROSSING NORTH EAST ARROW|0NORTH EAST ARROW CROSSING SOUTH EAST ARROW|0FALLING DIAGONAL CROSSING NORTH EAST ARROW"),
  (0x2930, "0RISING DIAGONAL CROSSING SOUTH EAST ARROW|0NORTH EAST ARROW CROSSING NORTH WEST ARROW|1WEST ARROW CROSSING NORTH EAST ARROW"),
  (0x2933, "0WAVE ARROW POINTING DIRECTLY RIGHT|0ARROW POINTING RIGHTWARDS THEN CURVING UPWARDS|5DOWNWARDS|2DOWNWARDS THEN CURVING LEFTWARDS|5RIGHTWARDS"),
  (0x2938, "0RIGHT-SIDE ARC CLOCKWISE ARROW|0LEFT-SIDE ARC ANTICLOCKWISE ARROW|0TOP ARC ANTICLOCKWISE ARROW|0BOTTOM ARC ANTICLOCKWISE ARROW"),
  (0x293C, "0TOP ARC CLOCKWISE ARROW WITH MINUS|2ANTICLOCKWISE ARROW WITH PLUS|0LOWER RIGHT SEMICIRCULAR CLOCKWISE ARROW|1LEFT SEMICIRCULAR ANTICLOCKWISE ARROW"),
  (0x2940, "0ANTICLOCKWISE CLOSED CIRCLE ARROW|0CLOCKWISE CLOSED CIRCLE ARROW|0RIGHTWARDS ARROW ABOVE SHORT LEFTWARDS ARROW"),
  (0x2943, "0LEFTWARDS ARROW ABOVE SHORT RIGHTWARDS ARROW|0SHORT RIGHTWARDS ARROW ABOVE LEFTWARDS ARROW|0RIGHTWARDS ARROW WITH PLUS BELOW"),
  (0x2946, "0LEFTWARDS ARROW WITH PLUS BELOW|0RIGHTWARDS ARROW THROUGH X|0LEFT RIGHT ARROW THROUGH SMALL CIRCLE|0UPWARDS TWO-HEADED ARROW FROM SMALL CIRCLE"),
  (0x294A, "0LEFT BARB UP RIGHT BARB DOWN HARPOON|2DOWN RIGHT BARB UP HARPOON|0UP BARB RIGHT DOWN BARB LEFT HARPOON|2LEFT DOWN BARB RIGHT HARPOON"),
  (0x294E, "0LEFT BARB UP RIGHT BARB UP HARPOON|0UP BARB RIGHT DOWN BARB RIGHT HARPOON|0LEFT BARB DOWN RIGHT BARB DOWN HARPOON"),
  (0x2951, "0UP BARB LEFT DOWN BARB LEFT HARPOON|0LEFTWARDS HARPOON WITH BARB UP TO BAR|0RIGHTWARDS HARPOON WITH BARB UP TO BAR"),
  (0x2954, "0UPWARDS HARPOON WITH BARB RIGHT TO BAR|0DOWNWARDS HARPOON WITH BARB RIGHT TO BAR|0LEFTWARDS HARPOON WITH BARB DOWN TO BAR"),
  (0x2957, "0RIGHTWARDS HARPOON WITH BARB DOWN TO BAR|0UPWARDS HARPOON WITH BARB LEFT TO BAR|0DOWNWARDS HARPOON WITH BARB LEFT TO BAR"),
  (0x295A, "0LEFTWARDS HARPOON WITH BARB UP FROM BAR|0RIGHTWARDS HARPOON WITH BARB UP FROM BAR|0UPWARDS HARPOON WITH BARB RIGHT FROM BAR"),
  (0x295D, "0DOWNWARDS HARPOON WITH BARB RIGHT FROM BAR|0LEFTWARDS HARPOON WITH BARB DOWN FROM BAR|0RIGHTWARDS HARPOON WITH BARB DOWN FROM BAR"),
  (0x2960, "0UPWARDS HARPOON WITH BARB LEFT FROM BAR|0DOWNWARDS HARPOON WITH BARB LEFT FROM BAR"),
  (0x2962, "0LEFTWARDS HARPOON WITH BARB UP ABOVE LEFTWARDS HARPOON WITH BARB DOWN|0UPWARDS HARPOON WITH BARB LEFT BESIDE UPWARDS HARPOON WITH BARB RIGHT"),
  (0x2964, "0RIGHTWARDS HARPOON WITH BARB UP ABOVE RIGHTWARDS HARPOON WITH BARB DOWN|0DOWNWARDS HARPOON WITH BARB LEFT BESIDE DOWNWARDS HARPOON WITH BARB RIGHT"),
  (0x2966, "0LEFTWARDS HARPOON WITH BARB UP ABOVE RIGHTWARDS HARPOON WITH BARB UP|4DOWN ABOVE RIGHTWARDS HARPOON WITH BARB DOWN"),
  (0x2968, "0RIGHTWARDS HARPOON WITH BARB UP ABOVE LEFTWARDS HARPOON WITH BARB UP|4DOWN ABOVE LEFTWARDS HARPOON WITH BARB DOWN"),
  (0x296A, "0LEFTWARDS HARPOON WITH BARB UP ABOVE LONG DASH|4DOWN BELOW LONG DASH|0RIGHTWARDS HARPOON WITH BARB UP ABOVE LONG DASH|4DOWN BELOW LONG DASH"),
  (0x296E, "0UPWARDS HARPOON WITH BARB LEFT BESIDE DOWNWARDS HARPOON WITH BARB RIGHT|0DOWNWARDS HARPOON WITH BARB LEFT BESIDE UPWARDS HARPOON WITH BARB RIGHT"),
  (0x2970, "0RIGHT DOUBLE ARROW WITH ROUNDED HEAD|0EQUALS SIGN ABOVE RIGHTWARDS ARROW|0TILDE OPERATOR ABOVE RIGHTWARDS ARROW|0LEFTWARDS ARROW ABOVE TILDE OPERATOR"),
  (0x2974, "0RIGHTWARDS ARROW ABOVE TILDE OPERATOR|3ALMOST EQUAL TO|0LESS-THAN ABOVE LEFTWARDS ARROW|0LEFTWARDS ARROW THROUGH LESS-THAN"),
  (0x2978, "0GREATER-THAN ABOVE RIGHTWARDS ARROW|0SUBSET ABOVE RIGHTWARDS ARROW|0LEFTWARDS ARROW THROUGH SUBSET|0SUPERSET ABOVE LEFTWARDS ARROW|0LEFT FISH TAIL"),
  (0x297D, "0RIGHT FISH TAIL|0UP FISH TAIL|0DOWN FISH TAIL|0TRIPLE VERTICAL BAR DELIMITER|0Z NOTATION SPOT|2TYPE COLON|0LEFT WHITE CURLY BRACKET"),
  (0x2984, "0RIGHT WHITE CURLY BRACKET|0LEFT WHITE PARENTHESIS|0RIGHT WHITE PARENTHESIS|0Z NOTATION LEFT IMAGE BRACKET|2RIGHT IMAGE BRACKET|2LEFT BINDING BRACKET"),
  (0x298A, "0Z NOTATION RIGHT BINDING BRACKET|0LEFT SQUARE BRACKET WITH UNDERBAR|0RIGHT SQUARE BRACKET WITH UNDERBAR|0LEFT SQUARE BRACKET WITH TICK IN TOP CORNER"),
  (0x298E, "0RIGHT SQUARE BRACKET WITH TICK IN BOTTOM CORNER|0LEFT SQUARE BRACKET WITH TICK IN BOTTOM CORNER|0RIGHT SQUARE BRACKET WITH TICK IN TOP CORNER"),
  (0x2991, "0LEFT ANGLE BRACKET WITH DOT|0RIGHT ANGLE BRACKET WITH DOT|0LEFT ARC LESS-THAN BRACKET|0RIGHT ARC GREATER-THAN BRACKET"),
  (0x2995, "0DOUBLE LEFT ARC GREATER-THAN BRACKET|1RIGHT ARC LESS-THAN BRACKET|0LEFT BLACK TORTOISE SHELL BRACKET|0RIGHT BLACK TORTOISE SHELL BRACKET"),
  (0x2999, "0DOTTED FENCE|0VERTICAL ZIGZAG LINE|0MEASURED ANGLE OPENING LEFT|0RIGHT ANGLE VARIANT WITH SQUARE|0MEASURED RIGHT ANGLE WITH DOT|0ANGLE WITH S INSIDE"),
  (0x299F, "0ACUTE ANGLE|0SPHERICAL ANGLE OPENING LEFT|3UP|0TURNED ANGLE|0REVERSED ANGLE|0ANGLE WITH UNDERBAR|0REVERSED ANGLE WITH UNDERBAR"),
  (0x29A6, "0OBLIQUE ANGLE OPENING UP|3DOWN|0MEASURED ANGLE WITH OPEN ARM ENDING IN ARROW POINTING UP AND RIGHT|9UP AND LEFT|9DOWN AND RIGHT|9DOWN AND LEFT"),
  (0x29AC, "0MEASURED ANGLE WITH OPEN ARM ENDING IN ARROW POINTING RIGHT AND UP|9LEFT AND UP|9RIGHT AND DOWN|9LEFT AND DOWN|0REVERSED EMPTY SET"),
  (0x29B1, "0EMPTY SET WITH OVERBAR|3SMALL CIRCLE ABOVE|3RIGHT ARROW ABOVE|3LEFT ARROW ABOVE|0CIRCLE WITH HORIZONTAL BAR|0CIRCLED VERTICAL BAR|1PARALLEL"),
  (0x29B8, "0CIRCLED REVERSE SOLIDUS|1PERPENDICULAR|0CIRCLE DIVIDED BY HORIZONTAL BAR AND TOP HALF DIVIDED BY VERTICAL BAR|1WITH SUPERIMPOSED X"),
  (0x29BC, "0CIRCLED ANTICLOCKWISE-ROTATED DIVISION SIGN|0UP ARROW THROUGH CIRCLE|0CIRCLED WHITE BULLET|1BULLET|1LESS-THAN|1GREATER-THAN"),
  (0x29C2, "0CIRCLE WITH SMALL CIRCLE TO THE RIGHT|2TWO HORIZONTAL STROKES TO THE RIGHT|0SQUARED RISING DIAGONAL SLASH|1FALLING DIAGONAL SLASH|1ASTERISK"),
  (0x29C7, "0SQUARED SMALL CIRCLE|1SQUARE|0TWO JOINED SQUARES|0TRIANGLE WITH DOT ABOVE|2UNDERBAR|0S IN TRIANGLE|0TRIANGLE WITH SERIFS AT BOTTOM"),
  (0x29CE, "0RIGHT TRIANGLE ABOVE LEFT TRIANGLE|0LEFT TRIANGLE BESIDE VERTICAL BAR|0VERTICAL BAR BESIDE RIGHT TRIANGLE|0BOWTIE WITH LEFT HALF BLACK"),
  (0x29D2, "0BOWTIE WITH RIGHT HALF BLACK|0BLACK BOWTIE|0TIMES WITH LEFT HALF BLACK|2RIGHT HALF BLACK|0WHITE HOURGLASS|0BLACK HOURGLASS|0LEFT WIGGLY FENCE"),
  (0x29D9, "0RIGHT WIGGLY FENCE|0LEFT DOUBLE WIGGLY FENCE|0RIGHT DOUBLE WIGGLY FENCE|0INCOMPLETE INFINITY|0TIE OVER INFINITY|0INFINITY NEGATED WITH VERTICAL BAR"),
  (0x29DF, "0DOUBLE-ENDED MULTIMAP|0SQUARE WITH CONTOURED OUTLINE|0INCREASES AS|0SHUFFLE PRODUCT|0EQUALS SIGN AND SLANTED PARALLEL|5WITH TILDE ABOVE"),
  (0x29E5, "0IDENTICAL TO AND SLANTED PARALLEL|0GLEICH STARK|0THERMODYNAMIC|0DOWN-POINTING TRIANGLE WITH LEFT HALF BLACK|3RIGHT HALF BLACK"),
  (0x29EA, "0BLACK DIAMOND WITH DOWN ARROW|1LOZENGE|0WHITE CIRCLE WITH DOWN ARROW|0BLACK CIRCLE WITH DOWN ARROW|0ERROR-BARRED WHITE SQUARE|1BLACK SQUARE"),
  (0x29F0, "0ERROR-BARRED WHITE DIAMOND|1BLACK DIAMOND|1WHITE CIRCLE|1BLACK CIRCLE|0RULE-DELAYED|0REVERSE SOLIDUS OPERATOR|0SOLIDUS WITH OVERBAR"),
  (0x29F7, "0REVERSE SOLIDUS WITH HORIZONTAL STROKE|0BIG SOLIDUS|1REVERSE SOLIDUS|0DOUBLE PLUS|0TRIPLE PLUS|0LEFT-POINTING CURVED ANGLE BRACKET"),
  (0x29FD, "0RIGHT-POINTING CURVED ANGLE BRACKET|0TINY|0MINY|0N-ARY CIRCLED DOT OPERATOR|2PLUS OPERATOR|2TIMES OPERATOR|1UNION OPERATOR WITH DOT|4PLUS"),
  (0x2A05, "0N-ARY SQUARE INTERSECTION OPERATOR|2UNION OPERATOR|0TWO LOGICAL AND OPERATOR|2OR OPERATOR|0N-ARY TIMES OPERATOR|0MODULO TWO SUM"),
  (0x2A0B, "0SUMMATION WITH INTEGRAL|0QUADRUPLE INTEGRAL OPERATOR|0FINITE PART INTEGRAL|0INTEGRAL WITH DOUBLE STROKE|1AVERAGE WITH SLASH|0CIRCULATION FUNCTION"),
  (0x2A11, "0ANTICLOCKWISE INTEGRATION|0LINE INTEGRATION WITH RECTANGULAR PATH AROUND POLE|3SEMICIRCULAR PATH AROUND POLE|2NOT INCLUDING THE POLE"),
  (0x2A15, "0INTEGRAL AROUND A POINT OPERATOR|0QUATERNION INTEGRAL OPERATOR|0INTEGRAL WITH LEFTWARDS ARROW WITH HOOK|2TIMES SIGN|2INTERSECTION|2UNION|2OVERBAR"),
  (0x2A1C, "0INTEGRAL WITH UNDERBAR|0JOIN|0LARGE LEFT TRIANGLE OPERATOR|0Z NOTATION SCHEMA COMPOSITION|3PIPING|3PROJECTION|0PLUS SIGN WITH SMALL CIRCLE ABOVE"),
  (0x2A23, "0PLUS SIGN WITH CIRCUMFLEX ACCENT ABOVE|3TILDE ABOVE|3DOT BELOW|3TILDE BELOW|3SUBSCRIPT TWO|3BLACK TRIANGLE|0MINUS SIGN WITH COMMA ABOVE|3DOT BELOW"),
  (0x2A2B, "0MINUS SIGN WITH FALLING DOTS|3RISING DOTS|0PLUS SIGN IN LEFT HALF CIRCLE|3RIGHT HALF CIRCLE|0VECTOR OR CROSS PRODUCT"),
  (0x2A30, "0MULTIPLICATION SIGN WITH DOT ABOVE|3UNDERBAR|0SEMIDIRECT PRODUCT WITH BOTTOM CLOSED|0SMASH PRODUCT|0MULTIPLICATION SIGN IN LEFT HALF CIRCLE"),
  (0x2A35, "0MULTIPLICATION SIGN IN RIGHT HALF CIRCLE|0CIRCLED MULTIPLICATION SIGN WITH CIRCUMFLEX ACCENT|0MULTIPLICATION SIGN IN DOUBLE CIRCLE"),
  (0x2A38, "0CIRCLED DIVISION SIGN|0PLUS SIGN IN TRIANGLE|0MINUS SIGN IN TRIANGLE|0MULTIPLICATION SIGN IN TRIANGLE|0INTERIOR PRODUCT|0RIGHTHAND INTERIOR PRODUCT"),
  (0x2A3E, "0Z NOTATION RELATIONAL COMPOSITION|0AMALGAMATION OR COPRODUCT|0INTERSECTION WITH DOT|0UNION WITH MINUS SIGN|2OVERBAR|0INTERSECTION WITH OVERBAR"),
  (0x2A44, "0INTERSECTION WITH LOGICAL AND|0UNION WITH LOGICAL OR|1ABOVE INTERSECTION|0INTERSECTION ABOVE UNION|0UNION ABOVE BAR ABOVE INTERSECTION"),
  (0x2A49, "0INTERSECTION ABOVE BAR ABOVE UNION|0UNION BESIDE AND JOINED WITH UNION|0INTERSECTION BESIDE AND JOINED WITH INTERSECTION|0CLOSED UNION WITH SERIFS"),
  (0x2A4D, "0CLOSED INTERSECTION WITH SERIFS|0DOUBLE SQUARE INTERSECTION|2UNION|0CLOSED UNION WITH SERIFS AND SMASH PRODUCT|0LOGICAL AND WITH DOT ABOVE"),
  (0x2A52, "0LOGICAL OR WITH DOT ABOVE|0DOUBLE LOGICAL AND|2OR|0TWO INTERSECTING LOGICAL AND|3OR|0SLOPING LARGE OR|2AND|0LOGICAL OR OVERLAPPING LOGICAL AND"),
  (0x2A5A, "0LOGICAL AND WITH MIDDLE STEM|1OR WITH MIDDLE STEM|1AND WITH HORIZONTAL DASH|1OR WITH HORIZONTAL DASH|1AND WITH DOUBLE OVERBAR|3UNDERBAR"),
  (0x2A60, "0LOGICAL AND WITH DOUBLE UNDERBAR|0SMALL VEE WITH UNDERBAR|0LOGICAL OR WITH DOUBLE OVERBAR|4UNDERBAR|0Z NOTATION DOMAIN ANTIRESTRICTION"),
  (0x2A65, "0Z NOTATION RANGE ANTIRESTRICTION|0EQUALS SIGN WITH DOT BELOW|0IDENTICAL WITH DOT ABOVE|0TRIPLE HORIZONTAL BAR WITH DOUBLE VERTICAL STROKE"),
  (0x2A69, "0TRIPLE HORIZONTAL BAR WITH TRIPLE VERTICAL STROKE|0TILDE OPERATOR WITH DOT ABOVE|3RISING DOTS|0SIMILAR MINUS SIMILAR|0CONGRUENT WITH DOT ABOVE"),
  (0x2A6E, "0EQUALS WITH ASTERISK|0ALMOST EQUAL TO WITH CIRCUMFLEX ACCENT|0APPROXIMATELY EQUAL OR EQUAL TO|0EQUALS SIGN ABOVE PLUS SIGN"),
  (0x2A72, "0PLUS SIGN ABOVE EQUALS SIGN|0EQUALS SIGN ABOVE TILDE OPERATOR|0DOUBLE COLON EQUAL|0TWO CONSECUTIVE EQUALS SIGNS|0THREE CONSECUTIVE EQUALS SIGNS"),
  (0x2A77, "0EQUALS SIGN WITH TWO DOTS ABOVE AND TWO DOTS BELOW|0EQUIVALENT WITH FOUR DOTS ABOVE|0LESS-THAN WITH CIRCLE INSIDE|0GREATER-THAN WITH CIRCLE INSIDE"),
  (0x2A7B, "0LESS-THAN WITH QUESTION MARK ABOVE|0GREATER-THAN WITH QUESTION MARK ABOVE|0LESS-THAN OR SLANTED EQUAL TO|0GREATER-THAN OR SLANTED EQUAL TO"),
  (0x2A7F, "0LESS-THAN OR SLANTED EQUAL TO WITH DOT INSIDE|0GREATER-THAN OR SLANTED EQUAL TO WITH DOT INSIDE|0LESS-THAN OR SLANTED EQUAL TO WITH DOT ABOVE"),
  (0x2A82, "0GREATER-THAN OR SLANTED EQUAL TO WITH DOT ABOVE|0LESS-THAN OR SLANTED EQUAL TO WITH DOT ABOVE RIGHT"),
  (0x2A84, "0GREATER-THAN OR SLANTED EQUAL TO WITH DOT ABOVE LEFT|0LESS-THAN OR APPROXIMATE|0GREATER-THAN OR APPROXIMATE|0LESS-THAN AND SINGLE-LINE NOT EQUAL TO"),
  (0x2A88, "0GREATER-THAN AND SINGLE-LINE NOT EQUAL TO|0LESS-THAN AND NOT APPROXIMATE|0GREATER-THAN AND NOT APPROXIMATE"),
  (0x2A8B, "0LESS-THAN ABOVE DOUBLE-LINE EQUAL ABOVE GREATER-THAN|0GREATER-THAN ABOVE DOUBLE-LINE EQUAL ABOVE LESS-THAN|0LESS-THAN ABOVE SIMILAR OR EQUAL"),
  (0x2A8E, "0GREATER-THAN ABOVE SIMILAR OR EQUAL|0LESS-THAN ABOVE SIMILAR ABOVE GREATER-THAN|0GREATER-THAN ABOVE SIMILAR ABOVE LESS-THAN"),
  (0x2A91, "0LESS-THAN ABOVE GREATER-THAN ABOVE DOUBLE-LINE EQUAL|0GREATER-THAN ABOVE LESS-THAN ABOVE DOUBLE-LINE EQUAL"),
  (0x2A93, "0LESS-THAN ABOVE SLANTED EQUAL ABOVE GREATER-THAN ABOVE SLANTED EQUAL|0GREATER-THAN ABOVE SLANTED EQUAL ABOVE LESS-THAN ABOVE SLANTED EQUAL"),
  (0x2A95, "0SLANTED EQUAL TO OR LESS-THAN|4GREATER-THAN|4LESS-THAN WITH DOT INSIDE|4GREATER-THAN WITH DOT INSIDE|0DOUBLE-LINE EQUAL TO OR LESS-THAN|4GREATER-THAN"),
  (0x2A9B, "0DOUBLE-LINE SLANTED EQUAL TO OR LESS-THAN|5GREATER-THAN|0SIMILAR OR LESS-THAN|2GREATER-THAN|1ABOVE LESS-THAN ABOVE EQUALS SIGN"),
  (0x2AA0, "0SIMILAR ABOVE GREATER-THAN ABOVE EQUALS SIGN|0DOUBLE NESTED LESS-THAN|2GREATER-THAN|2LESS-THAN WITH UNDERBAR|0GREATER-THAN OVERLAPPING LESS-THAN"),
  (0x2AA5, "0GREATER-THAN BESIDE LESS-THAN|0LESS-THAN CLOSED BY CURVE|0GREATER-THAN CLOSED BY CURVE|0LESS-THAN CLOSED BY CURVE ABOVE SLANTED EQUAL"),
  (0x2AA9, "0GREATER-THAN CLOSED BY CURVE ABOVE SLANTED EQUAL|0SMALLER THAN|0LARGER THAN|0SMALLER THAN OR EQUAL TO|0LARGER THAN OR EQUAL TO"),
  (0x2AAE, "0EQUALS SIGN WITH BUMPY ABOVE|0PRECEDES ABOVE SINGLE-LINE EQUALS SIGN|0SUCCEEDS ABOVE SINGLE-LINE EQUALS SIGN|0PRECEDES ABOVE SINGLE-LINE NOT EQUAL TO"),
  (0x2AB2, "0SUCCEEDS ABOVE SINGLE-LINE NOT EQUAL TO|0PRECEDES ABOVE EQUALS SIGN|0SUCCEEDS ABOVE EQUALS SIGN|0PRECEDES ABOVE NOT EQUAL TO"),
  (0x2AB6, "0SUCCEEDS ABOVE NOT EQUAL TO|0PRECEDES ABOVE ALMOST EQUAL TO|0SUCCEEDS ABOVE ALMOST EQUAL TO|0PRECEDES ABOVE NOT ALMOST EQUAL TO"),
  (0x2ABA, "0SUCCEEDS ABOVE NOT ALMOST EQUAL TO|0DOUBLE PRECEDES|1SUCCEEDS|0SUBSET WITH DOT|0SUPERSET WITH DOT|0SUBSET WITH PLUS SIGN BELOW"),
  (0x2AC0, "0SUPERSET WITH PLUS SIGN BELOW|0SUBSET WITH MULTIPLICATION SIGN BELOW|0SUPERSET WITH MULTIPLICATION SIGN BELOW|0SUBSET OF OR EQUAL TO WITH DOT ABOVE"),
  (0x2AC4, "0SUPERSET OF OR EQUAL TO WITH DOT ABOVE|0SUBSET OF ABOVE EQUALS SIGN|0SUPERSET OF ABOVE EQUALS SIGN|0SUBSET OF ABOVE TILDE OPERATOR"),
  (0x2AC8, "0SUPERSET OF ABOVE TILDE OPERATOR|0SUBSET OF ABOVE ALMOST EQUAL TO|0SUPERSET OF ABOVE ALMOST EQUAL TO|0SUBSET OF ABOVE NOT EQUAL TO"),
  (0x2ACC, "0SUPERSET OF ABOVE NOT EQUAL TO|0SQUARE LEFT OPEN BOX OPERATOR|1RIGHT OPEN BOX OPERATOR|0CLOSED SUBSET|1SUPERSET|1SUBSET OR EQUAL TO"),
  (0x2AD2, "0CLOSED SUPERSET OR EQUAL TO|0SUBSET ABOVE SUPERSET|0SUPERSET ABOVE SUBSET|0SUBSET ABOVE SUBSET|0SUPERSET ABOVE SUPERSET|1BESIDE SUBSET"),
  (0x2AD8, "0SUPERSET BESIDE AND JOINED BY DASH WITH SUBSET|0ELEMENT OF OPENING DOWNWARDS|0PITCHFORK WITH TEE TOP|0TRANSVERSAL INTERSECTION|0FORKING|0NONFORKING"),
  (0x2ADE, "0SHORT LEFT TACK|1DOWN TACK|1UP TACK|0PERPENDICULAR WITH S|0VERTICAL BAR TRIPLE RIGHT TURNSTILE|0DOUBLE VERTICAL BAR LEFT TURNSTILE"),
  (0x2AE4, "0VERTICAL BAR DOUBLE LEFT TURNSTILE|0DOUBLE VERTICAL BAR DOUBLE LEFT TURNSTILE|0LONG DASH FROM LEFT MEMBER OF DOUBLE VERTICAL"),
  (0x2AE7, "0SHORT DOWN TACK WITH OVERBAR|1UP TACK WITH UNDERBAR|3ABOVE SHORT DOWN TACK|0DOUBLE DOWN TACK|1UP TACK|1STROKE NOT SIGN"),
  (0x2AED, "0REVERSED DOUBLE STROKE NOT SIGN|0DOES NOT DIVIDE WITH REVERSED NEGATION SLASH|0VERTICAL LINE WITH CIRCLE ABOVE|4BELOW|0DOWN TACK WITH CIRCLE BELOW"),
  (0x2AF2, "0PARALLEL WITH HORIZONTAL STROKE|2TILDE OPERATOR|0TRIPLE VERTICAL BAR BINARY RELATION|3WITH HORIZONTAL STROKE|1COLON OPERATOR|1NESTED LESS-THAN"),
  (0x2AF8, "0TRIPLE NESTED GREATER-THAN|0DOUBLE-LINE SLANTED LESS-THAN OR EQUAL TO|2GREATER-THAN OR EQUAL TO|0TRIPLE SOLIDUS BINARY RELATION"),
  (0x2AFC, "0LARGE TRIPLE VERTICAL BAR OPERATOR|0DOUBLE SOLIDUS OPERATOR|0WHITE VERTICAL BAR|0N-ARY WHITE VERTICAL BAR|0NORTH EAST WHITE ARROW|1WEST WHITE ARROW"),
  (0x2B02, "0SOUTH EAST WHITE ARROW|1WEST WHITE ARROW|0LEFT RIGHT WHITE ARROW|0LEFTWARDS BLACK ARROW|0UPWARDS BLACK ARROW|0DOWNWARDS BLACK ARROW"),
  (0x2B08, "0NORTH EAST BLACK ARROW|1WEST BLACK ARROW|0SOUTH EAST BLACK ARROW|1WEST BLACK ARROW|0LEFT RIGHT BLACK ARROW|0UP DOWN BLACK ARROW"),
  (0x2B0E, "0RIGHTWARDS ARROW WITH TIP DOWNWARDS|4UPWARDS|0LEFTWARDS ARROW WITH TIP DOWNWARDS|4UPWARDS|0SQUARE WITH TOP HALF BLACK|2BOTTOM HALF BLACK"),
  (0x2B14, "0SQUARE WITH UPPER RIGHT DIAGONAL HALF BLACK|2LOWER LEFT DIAGONAL HALF BLACK|0DIAMOND WITH LEFT HALF BLACK|2RIGHT HALF BLACK|2TOP HALF BLACK"),
  (0x2B19, "0DIAMOND WITH BOTTOM HALF BLACK|0DOTTED SQUARE|0BLACK LARGE SQUARE|0WHITE LARGE SQUARE|0BLACK VERY SMALL SQUARE|0WHITE VERY SMALL SQUARE"),
  (0x2B1F, "0BLACK PENTAGON|0WHITE PENTAGON|1HEXAGON|0BLACK HEXAGON|0HORIZONTAL BLACK HEXAGON|0BLACK LARGE CIRCLE|1MEDIUM DIAMOND|0WHITE MEDIUM DIAMOND"),
  (0x2B27, "0BLACK MEDIUM LOZENGE|0WHITE MEDIUM LOZENGE|0BLACK SMALL DIAMOND|2LOZENGE|0WHITE SMALL LOZENGE|0BLACK HORIZONTAL ELLIPSE|0WHITE HORIZONTAL ELLIPSE"),
  (0x2B2E, "0BLACK VERTICAL ELLIPSE|0WHITE VERTICAL ELLIPSE|0LEFT ARROW WITH SMALL CIRCLE|0THREE LEFTWARDS ARROWS|0LEFT ARROW WITH CIRCLED PLUS"),
  (0x2B33, "0LONG LEFTWARDS SQUIGGLE ARROW|0LEFTWARDS TWO-HEADED ARROW WITH VERTICAL STROKE|4DOUBLE VERTICAL STROKE|3FROM BAR|2TRIPLE DASH ARROW"),
  (0x2B38, "0LEFTWARDS ARROW WITH DOTTED STEM|3TAIL WITH VERTICAL STROKE|5DOUBLE VERTICAL STROKE|1TWO-HEADED ARROW WITH TAIL|5WITH VERTICAL STROKE"),
  (0x2B3D, "0LEFTWARDS TWO-HEADED ARROW WITH TAIL WITH DOUBLE VERTICAL STROKE|1ARROW THROUGH X|0WAVE ARROW POINTING DIRECTLY LEFT"),
  (0x2B40, "0EQUALS SIGN ABOVE LEFTWARDS ARROW|0REVERSE TILDE OPERATOR ABOVE LEFTWARDS ARROW|0LEFTWARDS ARROW ABOVE REVERSE ALMOST EQUAL TO"),
  (0x2B43, "0RIGHTWARDS ARROW THROUGH GREATER-THAN|3SUPERSET|0LEFTWARDS QUADRUPLE ARROW|0RIGHTWARDS QUADRUPLE ARROW|0REVERSE TILDE OPERATOR ABOVE RIGHTWARDS ARROW"),
  (0x2B48, "0RIGHTWARDS ARROW ABOVE REVERSE ALMOST EQUAL TO|0TILDE OPERATOR ABOVE LEFTWARDS ARROW|0LEFTWARDS ARROW ABOVE ALMOST EQUAL TO|3REVERSE TILDE OPERATOR"),
  (0x2B4C, "0RIGHTWARDS ARROW ABOVE REVERSE TILDE OPERATOR|0DOWNWARDS TRIANGLE-HEADED ZIGZAG ARROW|0SHORT SLANTED NORTH ARROW|1BACKSLANTED SOUTH ARROW"),
  (0x2B50, "0WHITE MEDIUM STAR|0BLACK SMALL STAR|0WHITE SMALL STAR|0BLACK RIGHT-POINTING PENTAGON|0WHITE RIGHT-POINTING PENTAGON|0HEAVY LARGE CIRCLE"),
  (0x2B56, "0HEAVY OVAL WITH OVAL INSIDE|1CIRCLE WITH CIRCLE INSIDE|1CIRCLE|1CIRCLED SALTIRE|0SLANTED NORTH ARROW WITH HOOKED HEAD"),
  (0x2B5B, "0BACKSLANTED SOUTH ARROW WITH HOOKED TAIL|0SLANTED NORTH ARROW WITH HORIZONTAL TAIL|0BACKSLANTED SOUTH ARROW WITH HORIZONTAL TAIL"),
  (0x2B5E, "0BENT ARROW POINTING DOWNWARDS THEN NORTH EAST|0SHORT BENT ARROW POINTING DOWNWARDS THEN NORTH EAST|0LEFTWARDS TRIANGLE-HEADED ARROW"),
  (0x2B61, "0UPWARDS TRIANGLE-HEADED ARROW|0RIGHTWARDS TRIANGLE-HEADED ARROW|0DOWNWARDS TRIANGLE-HEADED ARROW|0LEFT RIGHT TRIANGLE-HEADED ARROW"),
  (0x2B65, "0UP DOWN TRIANGLE-HEADED ARROW|0NORTH WEST TRIANGLE-HEADED ARROW|1EAST TRIANGLE-HEADED ARROW|0SOUTH EAST TRIANGLE-HEADED ARROW"),
  (0x2B69, "0SOUTH WEST TRIANGLE-HEADED ARROW|0LEFTWARDS TRIANGLE-HEADED DASHED ARROW|0UPWARDS TRIANGLE-HEADED DASHED ARROW"),
  (0x2B6C, "0RIGHTWARDS TRIANGLE-HEADED DASHED ARROW|0DOWNWARDS TRIANGLE-HEADED DASHED ARROW|0CLOCKWISE TRIANGLE-HEADED OPEN CIRCLE ARROW"),
  (0x2B6F, "0ANTICLOCKWISE TRIANGLE-HEADED OPEN CIRCLE ARROW|0LEFTWARDS TRIANGLE-HEADED ARROW TO BAR|0UPWARDS TRIANGLE-HEADED ARROW TO BAR"),
  (0x2B72, "0RIGHTWARDS TRIANGLE-HEADED ARROW TO BAR|0DOWNWARDS TRIANGLE-HEADED ARROW TO BAR"),
  (0x2B76, "0NORTH WEST TRIANGLE-HEADED ARROW TO BAR|1EAST TRIANGLE-HEADED ARROW TO BAR|0SOUTH EAST TRIANGLE-HEADED ARROW TO BAR"),
  (0x2B79, "0SOUTH WEST TRIANGLE-HEADED ARROW TO BAR|0LEFTWARDS TRIANGLE-HEADED ARROW WITH DOUBLE HORIZONTAL STROKE"),
  (0x2B7B, "0UPWARDS TRIANGLE-HEADED ARROW WITH DOUBLE HORIZONTAL STROKE|0RIGHTWARDS TRIANGLE-HEADED ARROW WITH DOUBLE HORIZONTAL STROKE"),
  (0x2B7D, "0DOWNWARDS TRIANGLE-HEADED ARROW WITH DOUBLE HORIZONTAL STROKE|0HORIZONTAL TAB KEY|0VERTICAL TAB KEY"),
  (0x2B80, "0LEFTWARDS TRIANGLE-HEADED ARROW OVER RIGHTWARDS TRIANGLE-HEADED ARROW|0UPWARDS TRIANGLE-HEADED ARROW LEFTWARDS OF DOWNWARDS TRIANGLE-HEADED ARROW"),
  (0x2B82, "0RIGHTWARDS TRIANGLE-HEADED ARROW OVER LEFTWARDS TRIANGLE-HEADED ARROW|0DOWNWARDS TRIANGLE-HEADED ARROW LEFTWARDS OF UPWARDS TRIANGLE-HEADED ARROW"),
  (0x2B84, "0LEFTWARDS TRIANGLE-HEADED PAIRED ARROWS|0UPWARDS TRIANGLE-HEADED PAIRED ARROWS|0RIGHTWARDS TRIANGLE-HEADED PAIRED ARROWS"),
  (0x2B87, "0DOWNWARDS TRIANGLE-HEADED PAIRED ARROWS|0LEFTWARDS BLACK CIRCLED WHITE ARROW|0UPWARDS BLACK CIRCLED WHITE ARROW|0RIGHTWARDS BLACK CIRCLED WHITE ARROW"),
  (0x2B8B, "0DOWNWARDS BLACK CIRCLED WHITE ARROW|0ANTICLOCKWISE TRIANGLE-HEADED RIGHT U-SHAPED ARROW|2BOTTOM U-SHAPED ARROW|2LEFT U-SHAPED ARROW"),
  (0x2B8F, "0ANTICLOCKWISE TRIANGLE-HEADED TOP U-SHAPED ARROW|0RETURN LEFT|1RIGHT|0NEWLINE LEFT|1RIGHT|0FOUR CORNER ARROWS CIRCLING ANTICLOCKWISE"),
  (0x2B95, "0RIGHTWARDS BLACK ARROW"),
  (0x2B97, "0SYMBOL FOR TYPE A ELECTRONICS|0THREE-D TOP-LIGHTED LEFTWARDS EQUILATERAL ARROWHEAD|1RIGHT-LIGHTED UPWARDS EQUILATERAL ARROWHEAD"),
  (0x2B9A, "0THREE-D TOP-LIGHTED RIGHTWARDS EQUILATERAL ARROWHEAD|1LEFT-LIGHTED DOWNWARDS EQUILATERAL ARROWHEAD|0BLACK LEFTWARDS EQUILATERAL ARROWHEAD"),
  (0x2B9D, "0BLACK UPWARDS EQUILATERAL ARROWHEAD|1RIGHTWARDS EQUILATERAL ARROWHEAD|1DOWNWARDS EQUILATERAL ARROWHEAD"),
  (0x2BA0, "0DOWNWARDS TRIANGLE-HEADED ARROW WITH LONG TIP LEFTWARDS|6RIGHTWARDS|0UPWARDS TRIANGLE-HEADED ARROW WITH LONG TIP LEFTWARDS|6RIGHTWARDS"),
  (0x2BA4, "0LEFTWARDS TRIANGLE-HEADED ARROW WITH LONG TIP UPWARDS|0RIGHTWARDS TRIANGLE-HEADED ARROW WITH LONG TIP UPWARDS"),
  (0x2BA6, "0LEFTWARDS TRIANGLE-HEADED ARROW WITH LONG TIP DOWNWARDS|0RIGHTWARDS TRIANGLE-HEADED ARROW WITH LONG TIP DOWNWARDS"),
  (0x2BA8, "0BLACK CURVED DOWNWARDS AND LEFTWARDS ARROW|4RIGHTWARDS ARROW|2UPWARDS AND LEFTWARDS ARROW|4RIGHTWARDS ARROW|2LEFTWARDS AND UPWARDS ARROW"),
  (0x2BAD, "0BLACK CURVED RIGHTWARDS AND UPWARDS ARROW|2LEFTWARDS AND DOWNWARDS ARROW|2RIGHTWARDS AND DOWNWARDS ARROW|0RIBBON ARROW DOWN LEFT|3RIGHT|2UP LEFT"),
  (0x2BB3, "0RIBBON ARROW UP RIGHT|2LEFT UP|2RIGHT UP|2LEFT DOWN|2RIGHT DOWN|0UPWARDS WHITE ARROW FROM BAR WITH HORIZONTAL BAR|0UP ARROWHEAD IN A RECTANGLE BOX"),
  (0x2BBA, "0OVERLAPPING WHITE SQUARES|2AND BLACK SQUARES|1BLACK SQUARES|0BALLOT BOX WITH LIGHT X|0CIRCLED X|1BOLD X|0BLACK SQUARE CENTRED|1DIAMOND CENTRED"),
  (0x2BC2, "0TURNED BLACK PENTAGON|0HORIZONTAL BLACK OCTAGON|0BLACK OCTAGON|1MEDIUM UP-POINTING TRIANGLE CENTRED|2DOWN-POINTING TRIANGLE CENTRED"),
  (0x2BC7, "0BLACK MEDIUM LEFT-POINTING TRIANGLE CENTRED|2RIGHT-POINTING TRIANGLE CENTRED|0NEPTUNE FORM TWO|0TOP HALF BLACK CIRCLE|0BOTTOM HALF BLACK CIRCLE"),
  (0x2BCC, "0LIGHT FOUR POINTED BLACK CUSP|0ROTATED LIGHT FOUR POINTED BLACK CUSP|0WHITE FOUR POINTED CUSP|0ROTATED WHITE FOUR POINTED CUSP"),
  (0x2BD0, "0SQUARE POSITION INDICATOR|0UNCERTAINTY SIGN|0GROUP MARK|0PLUTO FORM TWO|2THREE|2FOUR|2FIVE|0TRANSPLUTO|0PROSERPINA|0ASTRAEA|0HYGIEA|0PHOLUS|0NESSUS"),
  (0x2BDD, "0WHITE MOON SELENA|0BLACK DIAMOND ON CROSS|0TRUE LIGHT MOON ARTA|0CUPIDO|0HADES|0ZEUS|0KRONOS|0APOLLON|0ADMETOS|0VULCANUS|0POSEIDON"),
  (0x2BE8, "0LEFT HALF BLACK STAR|0RIGHT HALF BLACK STAR|0STAR WITH LEFT HALF BLACK|2RIGHT HALF BLACK|0LEFTWARDS TWO-HEADED ARROW WITH TRIANGLE ARROWHEADS"),
  (0x2BED, "0UPWARDS TWO-HEADED ARROW WITH TRIANGLE ARROWHEADS|0RIGHTWARDS TWO-HEADED ARROW WITH TRIANGLE ARROWHEADS"),
  (0x2BEF, "0DOWNWARDS TWO-HEADED ARROW WITH TRIANGLE ARROWHEADS|0ERIS FORM ONE|2TWO|0SEDNA|0RUSSIAN ASTROLOGICAL SYMBOL VIGINTILE|3NOVILE|3QUINTILE|3BINOVILE"),
  (0x2BF7, "0RUSSIAN ASTROLOGICAL SYMBOL SENTAGON|3TREDECILE|0EQUALS SIGN WITH INFINITY BELOW|0UNITED SYMBOL|0SEPARATED SYMBOL|0DOUBLED SYMBOL|0PASSED SYMBOL"),
  (0x2BFE, "0REVERSED RIGHT ANGLE|0HELLSCHREIBER PAUSE SYMBOL|0GLAGOLITIC CAPITAL LETTER AZU|3BUKY|3VEDE|3GLAGOLI|3DOBRO|3YESTU|3ZHIVETE|3DZELO|3ZEMLJA|3IZHE"),
  (0x2C0A, "0GLAGOLITIC CAPITAL LETTER INITIAL IZHE|3I|3DJERVI|3KAKO|3LJUDIJE|3MYSLITE|3NASHI|3ONU|3POKOJI|3RITSI|3SLOVO|3TVRIDO|3UKU|3FRITU|3HERU|3OTU|3PE|3SHTA"),
  (0x2C1C, "0GLAGOLITIC CAPITAL LETTER TSI|3CHRIVI|3SHA|3YERU|3YERI|3YATI|3SPIDERY HA|3YU|3SMALL YUS|5WITH TAIL|3YO|3IOTATED SMALL YUS|3BIG YUS|3IOTATED BIG YUS"),
  (0x2C2A, "0GLAGOLITIC CAPITAL LETTER FITA|3IZHITSA|3SHTAPIC|3TROKUTASTI A|3LATINATE MYSLITE|3CAUDATE CHRIVI|1SMALL LETTER AZU|3BUKY|3VEDE|3GLAGOLI|3DOBRO|3YESTU"),
  (0x2C36, "0GLAGOLITIC SMALL LETTER ZHIVETE|3DZELO|3ZEMLJA|3IZHE|3INITIAL IZHE|3I|3DJERVI|3KAKO|3LJUDIJE|3MYSLITE|3NASHI|3ONU|3POKOJI|3RITSI|3SLOVO|3TVRIDO|3UKU"),
  (0x2C47, "0GLAGOLITIC SMALL LETTER FRITU|3HERU|3OTU|3PE|3SHTA|3TSI|3CHRIVI|3SHA|3YERU|3YERI|3YATI|3SPIDERY HA|3YU|3SMALL YUS|5WITH TAIL|3YO|3IOTATED SMALL YUS"),
  (0x2C58, "0GLAGOLITIC SMALL LETTER BIG YUS|3IOTATED BIG YUS|3FITA|3IZHITSA|3SHTAPIC|3TROKUTASTI A|3LATINATE MYSLITE|3CAUDATE CHRIVI"),
  (0x2C60, "0LATIN CAPITAL LETTER L WITH DOUBLE BAR|1SMALL LETTER L WITH DOUBLE BAR|1CAPITAL LETTER L WITH MIDDLE TILDE|3P WITH STROKE|3R WITH TAIL"),
  (0x2C65, "0LATIN SMALL LETTER A WITH STROKE|3T WITH DIAGONAL STROKE|1CAPITAL LETTER H WITH DESCENDER|1SMALL LETTER H WITH DESCENDER"),
  (0x2C69, "0LATIN CAPITAL LETTER K WITH DESCENDER|1SMALL LETTER K WITH DESCENDER|1CAPITAL LETTER Z WITH DESCENDER|1SMALL LETTER Z WITH DESCENDER"),
  (0x2C6D, "0LATIN CAPITAL LETTER ALPHA|3M WITH HOOK|3TURNED A|4ALPHA|1SMALL LETTER V WITH RIGHT HOOK|1CAPITAL LETTER W WITH HOOK|1SMALL LETTER W WITH HOOK"),
  (0x2C74, "0LATIN SMALL LETTER V WITH CURL|1CAPITAL LETTER HALF H|1SMALL LETTER HALF H|3TAILLESS PHI|3E WITH NOTCH|3TURNED R WITH TAIL|3O WITH LOW RING INSIDE"),
  (0x2C7B, "0LATIN LETTER SMALL CAPITAL TURNED E|1SUBSCRIPT SMALL LETTER J|0MODIFIER LETTER CAPITAL V|0LATIN CAPITAL LETTER S WITH SWASH TAIL|3Z WITH SWASH TAIL"),
  (0x2C80, "0COPTIC CAPITAL LETTER ALFA|1SMALL LETTER ALFA|1CAPITAL LETTER VIDA|1SMALL LETTER VIDA|1CAPITAL LETTER GAMMA|1SMALL LETTER GAMMA|1CAPITAL LETTER DALDA"),
  (0x2C87, "0COPTIC SMALL LETTER DALDA|1CAPITAL LETTER EIE|1SMALL LETTER EIE|1CAPITAL LETTER SOU|1SMALL LETTER SOU|1CAPITAL LETTER ZATA|1SMALL LETTER ZATA"),
  (0x2C8E, "0COPTIC CAPITAL LETTER HATE|1SMALL LETTER HATE|1CAPITAL LETTER THETHE|1SMALL LETTER THETHE|1CAPITAL LETTER IAUDA|1SMALL LETTER IAUDA"),
  (0x2C94, "0COPTIC CAPITAL LETTER KAPA|1SMALL LETTER KAPA|1CAPITAL LETTER LAULA|1SMALL LETTER LAULA|1CAPITAL LETTER MI|1SMALL LETTER MI|1CAPITAL LETTER NI"),
  (0x2C9B, "0COPTIC SMALL LETTER NI|1CAPITAL LETTER KSI|1SMALL LETTER KSI|1CAPITAL LETTER O|1SMALL LETTER O|1CAPITAL LETTER PI|1SMALL LETTER PI|1CAPITAL LETTER RO"),
  (0x2CA3, "0COPTIC SMALL LETTER RO|1CAPITAL LETTER SIMA|1SMALL LETTER SIMA|1CAPITAL LETTER TAU|1SMALL LETTER TAU|1CAPITAL LETTER UA|1SMALL LETTER UA"),
  (0x2CAA, "0COPTIC CAPITAL LETTER FI|1SMALL LETTER FI|1CAPITAL LETTER KHI|1SMALL LETTER KHI|1CAPITAL LETTER PSI|1SMALL LETTER PSI|1CAPITAL LETTER OOU"),
  (0x2CB1, "0COPTIC SMALL LETTER OOU|1CAPITAL LETTER DIALECT-P ALEF|1SMALL LETTER DIALECT-P ALEF|1CAPITAL LETTER OLD COPTIC AIN|1SMALL LETTER OLD COPTIC AIN"),
  (0x2CB6, "0COPTIC CAPITAL LETTER CRYPTOGRAMMIC EIE|1SMALL LETTER CRYPTOGRAMMIC EIE|1CAPITAL LETTER DIALECT-P KAPA|1SMALL LETTER DIALECT-P KAPA"),
  (0x2CBA, "0COPTIC CAPITAL LETTER DIALECT-P NI|1SMALL LETTER DIALECT-P NI|1CAPITAL LETTER CRYPTOGRAMMIC NI|1SMALL LETTER CRYPTOGRAMMIC NI"),
  (0x2CBE, "0COPTIC CAPITAL LETTER OLD COPTIC OOU|1SMALL LETTER OLD COPTIC OOU|1CAPITAL LETTER SAMPI|1SMALL LETTER SAMPI|1CAPITAL LETTER CROSSED SHEI"),
  (0x2CC3, "0COPTIC SMALL LETTER CROSSED SHEI|1CAPITAL LETTER OLD COPTIC SHEI|1SMALL LETTER OLD COPTIC SHEI|1CAPITAL LETTER OLD COPTIC ESH"),
  (0x2CC7, "0COPTIC SMALL LETTER OLD COPTIC ESH|1CAPITAL LETTER AKHMIMIC KHEI|1SMALL LETTER AKHMIMIC KHEI|1CAPITAL LETTER DIALECT-P HORI"),
  (0x2CCB, "0COPTIC SMALL LETTER DIALECT-P HORI|1CAPITAL LETTER OLD COPTIC HORI|1SMALL LETTER OLD COPTIC HORI|1CAPITAL LETTER OLD COPTIC HA"),
  (0x2CCF, "0COPTIC SMALL LETTER OLD COPTIC HA|1CAPITAL LETTER L-SHAPED HA|1SMALL LETTER L-SHAPED HA|1CAPITAL LETTER OLD COPTIC HEI|1SMALL LETTER OLD COPTIC HEI"),
  (0x2CD4, "0COPTIC CAPITAL LETTER OLD COPTIC HAT|1SMALL LETTER OLD COPTIC HAT|1CAPITAL LETTER OLD COPTIC GANGIA|1SMALL LETTER OLD COPTIC GANGIA"),
  (0x2CD8, "0COPTIC CAPITAL LETTER OLD COPTIC DJA|1SMALL LETTER OLD COPTIC DJA|1CAPITAL LETTER OLD COPTIC SHIMA|1SMALL LETTER OLD COPTIC SHIMA"),
  (0x2CDC, "0COPTIC CAPITAL LETTER OLD NUBIAN SHIMA|1SMALL LETTER OLD NUBIAN SHIMA|1CAPITAL LETTER OLD NUBIAN NGI|1SMALL LETTER OLD NUBIAN NGI"),
  (0x2CE0, "0COPTIC CAPITAL LETTER OLD NUBIAN NYI|1SMALL LETTER OLD NUBIAN NYI|1CAPITAL LETTER OLD NUBIAN WAU|1SMALL LETTER OLD NUBIAN WAU|1SYMBOL KAI|2MI RO"),
  (0x2CE6, "0COPTIC SYMBOL PI RO|2STAUROS|2TAU RO|2KHI RO|2SHIMA SIMA|1CAPITAL LETTER CRYPTOGRAMMIC SHEI|1SMALL LETTER CRYPTOGRAMMIC SHEI"),
  (0x2CED, "0COPTIC CAPITAL LETTER CRYPTOGRAMMIC GANGIA|1SMALL LETTER CRYPTOGRAMMIC GANGIA|1COMBINING NI ABOVE|2SPIRITUS ASPER|3LENIS"),
  (0x2CF2, "0COPTIC CAPITAL LETTER BOHAIRIC KHEI|1SMALL LETTER BOHAIRIC KHEI"),
  (0x2CF9, "0COPTIC OLD NUBIAN FULL STOP|3DIRECT QUESTION MARK|3INDIRECT QUESTION MARK|3VERSE DIVIDER|1FRACTION ONE HALF|1FULL STOP|1MORPHOLOGICAL DIVIDER"),
  (0x2D00, "0GEORGIAN SMALL LETTER AN|3BAN|3GAN|3DON|3EN|3VIN|3ZEN|3TAN|3IN|3KAN|3LAS|3MAN|3NAR|3ON|3PAR|3ZHAR|3RAE|3SAN|3TAR|3UN|3PHAR|3KHAR|3GHAN|3QAR|3SHIN"),
  (0x2D19, "0GEORGIAN SMALL LETTER CHIN|3CAN|3JIL|3CIL|3CHAR|3XAN|3JHAN|3HAE|3HE|3HIE|3WE|3HAR|3HOE"),
  (0x2D27, "0GEORGIAN SMALL LETTER YN"),
  (0x2D2D, "0GEORGIAN SMALL LETTER AEN"),
  (0x2D30, "0TIFINAGH LETTER YA|2YAB|2YABH|2YAG|2YAGHH|2BERBER ACADEMY YAJ|2YAJ|2YAD|2YADH|2YADD|2YADDH|2YEY|2YAF|2YAK|2TUAREG YAK|2YAKHH|2YAH|2BERBER ACADEMY YAH"),
  (0x2D42, "0TIFINAGH LETTER TUAREG YAH|2YAHH|2YAA|2YAKH|2TUAREG YAKH|2YAQ|2TUAREG YAQ|2YI|2YAZH|2AHAGGAR YAZH|2TUAREG YAZH|2YAL|2YAM|2YAN|2TUAREG YAGN|3YANG|2YAP"),
  (0x2D53, "0TIFINAGH LETTER YU|2YAR|2YARR|2YAGH|2TUAREG YAGH|2AYER YAGH|2YAS|2YASS|2YASH|2YAT|2YATH|2YACH|2YATT|2YAV|2YAW|2YAY|2YAZ|2TAWELLEMET YAZ|2YAZZ|2YE|2YO"),
  (0x2D6F, "0TIFINAGH MODIFIER LETTER LABIALIZATION MARK|1SEPARATOR MARK"),
  (0x2D7F, "0TIFINAGH CONSONANT JOINER|0ETHIOPIC SYLLABLE LOA|2MOA|2ROA|2SOA|2SHOA|2BOA|2TOA|2COA|2NOA|2NYOA|2GLOTTAL OA|2ZOA|2DOA|2DDOA|2JOA|2THOA|2CHOA|2PHOA"),
  (0x2D92, "0ETHIOPIC SYLLABLE POA|2GGWA|2GGWI|2GGWEE|2GGWE"),
  (0x2DA0, "0ETHIOPIC SYLLABLE SSA|2SSU|2SSI|2SSAA|2SSEE|2SSE|2SSO"),
  (0x2DA8, "0ETHIOPIC SYLLABLE CCA|2CCU|2CCI|2CCAA|2CCEE|2CCE|2CCO"),
  (0x2DB0, "0ETHIOPIC SYLLABLE ZZA|2ZZU|2ZZI|2ZZAA|2ZZEE|2ZZE|2ZZO"),
  (0x2DB8, "0ETHIOPIC SYLLABLE CCHA|2CCHU|2CCHI|2CCHAA|2CCHEE|2CCHE|2CCHO"),
  (0x2DC0, "0ETHIOPIC SYLLABLE QYA|2QYU|2QYI|2QYAA|2QYEE|2QYE|2QYO"),
  (0x2DC8, "0ETHIOPIC SYLLABLE KYA|2KYU|2KYI|2KYAA|2KYEE|2KYE|2KYO"),
  (0x2DD0, "0ETHIOPIC SYLLABLE XYA|2XYU|2XYI|2XYAA|2XYEE|2XYE|2XYO"),
  (0x2DD8, "0ETHIOPIC SYLLABLE GYA|2GYU|2GYI|2GYAA|2GYEE|2GYE|2GYO"),
  (0x2DE0, "0COMBINING CYRILLIC LETTER BE|3VE|3GHE|3DE|3ZHE|3ZE|3KA|3EL|3EM|3EN|3O|3PE|3ER|3ES|3TE|3HA|3TSE|3CHE|3SHA|3SHCHA|3FITA|3ES-TE|3A|3IE|3DJERV"),
  (0x2DF9, "0COMBINING CYRILLIC LETTER MONOGRAPH UK|3YAT|3YU|3IOTIFIED A|3LITTLE YUS|3BIG YUS|3IOTIFIED BIG YUS|0RIGHT ANGLE SUBSTITUTION MARKER"),
  (0x2E01, "0RIGHT ANGLE DOTTED SUBSTITUTION MARKER|0LEFT SUBSTITUTION BRACKET|0RIGHT SUBSTITUTION BRACKET|0LEFT DOTTED SUBSTITUTION BRACKET"),
  (0x2E05, "0RIGHT DOTTED SUBSTITUTION BRACKET|0RAISED INTERPOLATION MARKER|1DOTTED INTERPOLATION MARKER|0DOTTED TRANSPOSITION MARKER|0LEFT TRANSPOSITION BRACKET"),
  (0x2E0A, "0RIGHT TRANSPOSITION BRACKET|0RAISED SQUARE|0LEFT RAISED OMISSION BRACKET|0RIGHT RAISED OMISSION BRACKET|0EDITORIAL CORONIS|0PARAGRAPHOS"),
  (0x2E10, "0FORKED PARAGRAPHOS|0REVERSED FORKED PARAGRAPHOS|0HYPODIASTOLE|0DOTTED OBELOS|0DOWNWARDS ANCORA|0UPWARDS ANCORA|0DOTTED RIGHT-POINTING ANGLE"),
  (0x2E17, "0DOUBLE OBLIQUE HYPHEN|0INVERTED INTERROBANG|0PALM BRANCH|0HYPHEN WITH DIAERESIS|0TILDE WITH RING ABOVE|0LEFT LOW PARAPHRASE BRACKET"),
  (0x2E1D, "0RIGHT LOW PARAPHRASE BRACKET|0TILDE WITH DOT ABOVE|3BELOW|0LEFT VERTICAL BAR WITH QUILL|0RIGHT VERTICAL BAR WITH QUILL|0TOP LEFT HALF BRACKET"),
  (0x2E23, "0TOP RIGHT HALF BRACKET|0BOTTOM LEFT HALF BRACKET|1RIGHT HALF BRACKET|0LEFT SIDEWAYS U BRACKET|0RIGHT SIDEWAYS U BRACKET|0LEFT DOUBLE PARENTHESIS"),
  (0x2E29, "0RIGHT DOUBLE PARENTHESIS|0TWO DOTS OVER ONE DOT PUNCTUATION|0ONE DOT OVER TWO DOTS PUNCTUATION|0SQUARED FOUR DOT PUNCTUATION|0FIVE DOT MARK"),
  (0x2E2E, "0REVERSED QUESTION MARK|0VERTICAL TILDE|0RING POINT|0WORD SEPARATOR MIDDLE DOT|0TURNED COMMA|0RAISED DOT|1COMMA|0TURNED SEMICOLON"),
  (0x2E36, "0DAGGER WITH LEFT GUARD|2RIGHT GUARD|0TURNED DAGGER|0TOP HALF SECTION SIGN|0TWO-EM DASH|0THREE-EM DASH|0STENOGRAPHIC FULL STOP|0VERTICAL SIX DOTS"),
  (0x2E3E, "0WIGGLY VERTICAL LINE|0CAPITULUM|0DOUBLE HYPHEN|0REVERSED COMMA|0DOUBLE LOW-REVERSED-9 QUOTATION MARK|0DASH WITH LEFT UPTURN|0DOUBLE SUSPENSION MARK"),
  (0x2E45, "0INVERTED LOW KAVYKA|3WITH KAVYKA ABOVE|0LOW KAVYKA|2WITH DOT|0DOUBLE STACKED COMMA|0DOTTED SOLIDUS|0TRIPLE DAGGER|0MEDIEVAL COMMA|0PARAGRAPHUS MARK"),
  (0x2E4E, "0PUNCTUS ELEVATUS MARK|0CORNISH VERSE DIVIDER|0CROSS PATTY WITH RIGHT CROSSBAR|3LEFT CROSSBAR|0TIRONIAN SIGN CAPITAL ET|0MEDIEVAL EXCLAMATION MARK"),
  (0x2E54, "0MEDIEVAL QUESTION MARK|0LEFT SQUARE BRACKET WITH STROKE|0RIGHT SQUARE BRACKET WITH STROKE|0LEFT SQUARE BRACKET WITH DOUBLE STROKE"),
  (0x2E58, "0RIGHT SQUARE BRACKET WITH DOUBLE STROKE|0TOP HALF LEFT PARENTHESIS|2RIGHT PARENTHESIS|0BOTTOM HALF LEFT PARENTHESIS|2RIGHT PARENTHESIS"),
  (0x2E5D, "0OBLIQUE HYPHEN"),
  (0x2E80, "0CJK RADICAL REPEAT|2CLIFF|2SECOND ONE|3TWO|3THREE|2PERSON|2BOX|2TABLE|2KNIFE ONE|3TWO|2DIVINATION|2SEAL|2SMALL ONE|3TWO|2LAME ONE|3TWO|3THREE|3FOUR"),
  (0x2E92, "0CJK RADICAL SNAKE|2THREAD|2SNOUT ONE|3TWO|2HEART ONE|3TWO|2HAND|2RAP"),
  (0x2E9B, "0CJK RADICAL CHOKE|2SUN|2MOON|2DEATH|2MOTHER|2CIVILIAN|2WATER ONE|3TWO|2FIRE|2PAW ONE|3TWO|2SIMPLIFIED HALF TREE TRUNK|2COW|2DOG|2JADE|2BOLT OF CLOTH"),
  (0x2EAB, "0CJK RADICAL EYE|2SPIRIT ONE|3TWO|2BAMBOO|2SILK|2C-SIMPLIFIED SILK|2NET ONE|3TWO|3THREE|3FOUR|2MESH|2SHEEP|2RAM|2EWE|2OLD|2BRUSH ONE|3TWO|2MEAT"),
  (0x2EBD, "0CJK RADICAL MORTAR|2GRASS ONE|3TWO|3THREE|2TIGER|2CLOTHES|2WEST ONE|3TWO|2C-SIMPLIFIED SEE|2SIMPLIFIED HORN|2HORN|2C-SIMPLIFIED SPEECH|3SHELL|2FOOT"),
  (0x2ECB, "0CJK RADICAL C-SIMPLIFIED CART|2SIMPLIFIED WALK|2WALK ONE|3TWO|2CITY|2C-SIMPLIFIED GOLD|2LONG ONE|3TWO|2C-SIMPLIFIED LONG|3GATE|2MOUND ONE|3TWO|2RAIN"),
  (0x2ED8, "0CJK RADICAL BLUE|2C-SIMPLIFIED TANNED LEATHER|3LEAF|3WIND|3FLY|2EAT ONE|3TWO|3THREE|2C-SIMPLIFIED EAT|2HEAD|2C-SIMPLIFIED HORSE|2BONE|2GHOST"),
  (0x2EE5, "0CJK RADICAL C-SIMPLIFIED FISH|3BIRD|3SALT|2SIMPLIFIED WHEAT|3YELLOW|2C-SIMPLIFIED FROG|2J-SIMPLIFIED EVEN|2C-SIMPLIFIED EVEN|2J-SIMPLIFIED TOOTH"),
  (0x2EEE, "0CJK RADICAL C-SIMPLIFIED TOOTH|2J-SIMPLIFIED DRAGON|2C-SIMPLIFIED DRAGON|2TURTLE|2J-SIMPLIFIED TURTLE|2C-SIMPLIFIED TURTLE"),
  (0x2F00, "0KANGXI RADICAL ONE|2LINE|2DOT|2SLASH|2SECOND|2HOOK|2TWO|2LID|2MAN|2LEGS|2ENTER|2EIGHT|2DOWN BOX|2COVER|2ICE|2TABLE|2OPEN BOX|2KNIFE|2POWER|2WRAP"),
  (0x2F14, "0KANGXI RADICAL SPOON|2RIGHT OPEN BOX|2HIDING ENCLOSURE|2TEN|2DIVINATION|2SEAL|2CLIFF|2PRIVATE|2AGAIN|2MOUTH|2ENCLOSURE|2EARTH|2SCHOLAR|2GO|3SLOWLY"),
  (0x2F23, "0KANGXI RADICAL EVENING|2BIG|2WOMAN|2CHILD|2ROOF|2INCH|2SMALL|2LAME|2CORPSE|2SPROUT|2MOUNTAIN|2RIVER|2WORK|2ONESELF|2TURBAN|2DRY|2SHORT THREAD"),
  (0x2F34, "0KANGXI RADICAL DOTTED CLIFF|2LONG STRIDE|2TWO HANDS|2SHOOT|2BOW|2SNOUT|2BRISTLE|2STEP|2HEART|2HALBERD|2DOOR|2HAND|2BRANCH|2RAP|2SCRIPT|2DIPPER|2AXE"),
  (0x2F45, "0KANGXI RADICAL SQUARE|2NOT|2SUN|2SAY|2MOON|2TREE|2LACK|2STOP|2DEATH|2WEAPON|2DO NOT|2COMPARE|2FUR|2CLAN|2STEAM|2WATER|2FIRE|2CLAW|2FATHER|2DOUBLE X"),
  (0x2F59, "0KANGXI RADICAL HALF TREE TRUNK|2SLICE|2FANG|2COW|2DOG|2PROFOUND|2JADE|2MELON|2TILE|2SWEET|2LIFE|2USE|2FIELD|2BOLT OF CLOTH|2SICKNESS|2DOTTED TENT"),
  (0x2F69, "0KANGXI RADICAL WHITE|2SKIN|2DISH|2EYE|2SPEAR|2ARROW|2STONE|2SPIRIT|2TRACK|2GRAIN|2CAVE|2STAND|2BAMBOO|2RICE|2SILK|2JAR|2NET|2SHEEP|2FEATHER|2OLD|2AND"),
  (0x2F7E, "0KANGXI RADICAL PLOW|2EAR|2BRUSH|2MEAT|2MINISTER|2SELF|2ARRIVE|2MORTAR|2TONGUE|2OPPOSE|2BOAT|2STOPPING|2COLOR|2GRASS|2TIGER|2INSECT|2BLOOD"),
  (0x2F8F, "0KANGXI RADICAL WALK ENCLOSURE|2CLOTHES|2WEST|2SEE|2HORN|2SPEECH|2VALLEY|2BEAN|2PIG|2BADGER|2SHELL|2RED|2RUN|2FOOT|2BODY|2CART|2BITTER|2MORNING|2WALK"),
  (0x2FA2, "0KANGXI RADICAL CITY|2WINE|2DISTINGUISH|2VILLAGE|2GOLD|2LONG|2GATE|2MOUND|2SLAVE|2SHORT TAILED BIRD|2RAIN|2BLUE|2WRONG|2FACE|2LEATHER|2TANNED LEATHER"),
  (0x2FB2, "0KANGXI RADICAL LEEK|2SOUND|2LEAF|2WIND|2FLY|2EAT|2HEAD|2FRAGRANT|2HORSE|2BONE|2TALL|2HAIR|2FIGHT|2SACRIFICIAL WINE|2CAULDRON|2GHOST|2FISH|2BIRD|2SALT"),
  (0x2FC5, "0KANGXI RADICAL DEER|2WHEAT|2HEMP|2YELLOW|2MILLET|2BLACK|2EMBROIDERY|2FROG|2TRIPOD|2DRUM|2RAT|2NOSE|2EVEN|2TOOTH|2DRAGON|2TURTLE|2FLUTE"),
  (0x2FF0, "0IDEOGRAPHIC DESCRIPTION CHARACTER LEFT TO RIGHT|3ABOVE TO BELOW|3LEFT TO MIDDLE AND RIGHT|3ABOVE TO MIDDLE AND BELOW|3FULL SURROUND"),
  (0x2FF5, "0IDEOGRAPHIC DESCRIPTION CHARACTER SURROUND FROM ABOVE|5BELOW|5LEFT|5UPPER LEFT|6RIGHT|5LOWER LEFT|3OVERLAID"),
  (0x3000, "0IDEOGRAPHIC SPACE|1COMMA|1FULL STOP|0DITTO MARK|0JAPANESE INDUSTRIAL STANDARD SYMBOL|0IDEOGRAPHIC ITERATION MARK|1CLOSING MARK|1NUMBER ZERO"),
  (0x3008, "0LEFT ANGLE BRACKET|0RIGHT ANGLE BRACKET|0LEFT DOUBLE ANGLE BRACKET|0RIGHT DOUBLE ANGLE BRACKET|0LEFT CORNER BRACKET|0RIGHT CORNER BRACKET"),
  (0x300E, "0LEFT WHITE CORNER BRACKET|0RIGHT WHITE CORNER BRACKET|0LEFT BLACK LENTICULAR BRACKET|0RIGHT BLACK LENTICULAR BRACKET|0POSTAL MARK|0GETA MARK"),
  (0x3014, "0LEFT TORTOISE SHELL BRACKET|0RIGHT TORTOISE SHELL BRACKET|0LEFT WHITE LENTICULAR BRACKET|0RIGHT WHITE LENTICULAR BRACKET"),
  (0x3018, "0LEFT WHITE TORTOISE SHELL BRACKET|0RIGHT WHITE TORTOISE SHELL BRACKET|0LEFT WHITE SQUARE BRACKET|0RIGHT WHITE SQUARE BRACKET|0WAVE DASH"),
  (0x301D, "0REVERSED DOUBLE PRIME QUOTATION MARK|0DOUBLE PRIME QUOTATION MARK|0LOW DOUBLE PRIME QUOTATION MARK|0POSTAL MARK FACE|0HANGZHOU NUMERAL ONE|2TWO"),
  (0x3023, "0HANGZHOU NUMERAL THREE|2FOUR|2FIVE|2SIX|2SEVEN|2EIGHT|2NINE|0IDEOGRAPHIC LEVEL TONE MARK|1RISING TONE MARK|1DEPARTING TONE MARK|1ENTERING TONE MARK"),
  (0x302E, "0HANGUL SINGLE DOT TONE MARK|1DOUBLE DOT TONE MARK|0WAVY DASH|0VERTICAL KANA REPEAT MARK|3WITH VOICED SOUND MARK|3MARK UPPER HALF"),
  (0x3034, "0VERTICAL KANA REPEAT WITH VOICED SOUND MARK UPPER HALF|3MARK LOWER HALF|0CIRCLED POSTAL MARK|0IDEOGRAPHIC TELEGRAPH LINE FEED SEPARATOR SYMBOL"),
  (0x3038, "0HANGZHOU NUMERAL TEN|2TWENTY|2THIRTY|0VERTICAL IDEOGRAPHIC ITERATION MARK|0MASU MARK|0PART ALTERNATION MARK|0IDEOGRAPHIC VARIATION INDICATOR"),
  (0x303F, "0IDEOGRAPHIC HALF FILL SPACE"),
  (0x3041, "0HIRAGANA LETTER SMALL A|2A|2SMALL I|2I|2SMALL U|2U|2SMALL E|2E|2SMALL O|2O|2KA|2GA|2KI|2GI|2KU|2GU|2KE|2GE|2KO|2GO|2SA|2ZA|2SI|2ZI|2SU|2ZU|2SE|2ZE"),
  (0x305D, "0HIRAGANA LETTER SO|2ZO|2TA|2DA|2TI|2DI|2SMALL TU|2TU|2DU|2TE|2DE|2TO|2DO|2NA|2NI|2NU|2NE|2NO|2HA|2BA|2PA|2HI|2BI|2PI|2HU|2BU|2PU|2HE|2BE|2PE|2HO|2BO"),
  (0x307D, "0HIRAGANA LETTER PO|2MA|2MI|2MU|2ME|2MO|2SMALL YA|2YA|2SMALL YU|2YU|2SMALL YO|2YO|2RA|2RI|2RU|2RE|2RO|2SMALL WA|2WA|2WI|2WE|2WO|2N|2VU|2SMALL KA|3KE"),
  (0x3099, "0COMBINING KATAKANA-HIRAGANA VOICED SOUND MARK|2SEMI-VOICED SOUND MARK|0KATAKANA-HIRAGANA VOICED SOUND MARK|1SEMI-VOICED SOUND MARK"),
  (0x309D, "0HIRAGANA ITERATION MARK|1VOICED ITERATION MARK|1DIGRAPH YORI|0KATAKANA-HIRAGANA DOUBLE HYPHEN|0KATAKANA LETTER SMALL A|2A|2SMALL I|2I|2SMALL U|2U"),
  (0x30A7, "0KATAKANA LETTER SMALL E|2E|2SMALL O|2O|2KA|2GA|2KI|2GI|2KU|2GU|2KE|2GE|2KO|2GO|2SA|2ZA|2SI|2ZI|2SU|2ZU|2SE|2ZE|2SO|2ZO|2TA|2DA|2TI|2DI|2SMALL TU|2TU"),
  (0x30C5, "0KATAKANA LETTER DU|2TE|2DE|2TO|2DO|2NA|2NI|2NU|2NE|2NO|2HA|2BA|2PA|2HI|2BI|2PI|2HU|2BU|2PU|2HE|2BE|2PE|2HO|2BO|2PO|2MA|2MI|2MU|2ME|2MO|2SMALL YA|2YA"),
  (0x30E5, "0KATAKANA LETTER SMALL YU|2YU|2SMALL YO|2YO|2RA|2RI|2RU|2RE|2RO|2SMALL WA|2WA|2WI|2WE|2WO|2N|2VU|2SMALL KA|3KE|2VA|2VI|2VE|2VO|1MIDDLE DOT"),
  (0x30FC, "0KATAKANA-HIRAGANA PROLONGED SOUND MARK|0KATAKANA ITERATION MARK|1VOICED ITERATION MARK|1DIGRAPH KOTO"),
  (0x3105, "0BOPOMOFO LETTER B|2P|2M|2F|2D|2T|2N|2L|2G|2K|2H|2J|2Q|2X|2ZH|2CH|2SH|2R|2Z|2C|2S|2A|2O|2E|2EH|2AI|2EI|2AU|2OU|2AN|2EN|2ANG|2ENG|2ER|2I|2U|2IU|2V|2NG"),
  (0x312C, "0BOPOMOFO LETTER GN|2IH|2O WITH DOT ABOVE|2NN"),
  (0x3131, "0HANGUL LETTER KIYEOK|2SSANGKIYEOK|2KIYEOK-SIOS|2NIEUN|2NIEUN-CIEUC|2NIEUN-HIEUH|2TIKEUT|2SSANGTIKEUT|2RIEUL|2RIEUL-KIYEOK|2RIEUL-MIEUM|2RIEUL-PIEUP"),
  (0x313D, "0HANGUL LETTER RIEUL-SIOS|2RIEUL-THIEUTH|2RIEUL-PHIEUPH|2RIEUL-HIEUH|2MIEUM|2PIEUP|2SSANGPIEUP|2PIEUP-SIOS|2SIOS|2SSANGSIOS|2IEUNG|2CIEUC|2SSANGCIEUC"),
  (0x314A, "0HANGUL LETTER CHIEUCH|2KHIEUKH|2THIEUTH|2PHIEUPH|2HIEUH|2A|2AE|2YA|2YAE|2EO|2E|2YEO|2YE|2O|2WA|2WAE|2OE|2YO|2U|2WEO|2WE|2WI|2YU|2EU|2YI|2I|1FILLER"),
  (0x3165, "0HANGUL LETTER SSANGNIEUN|2NIEUN-TIKEUT|2NIEUN-SIOS|2NIEUN-PANSIOS|2RIEUL-KIYEOK-SIOS|2RIEUL-TIKEUT|2RIEUL-PIEUP-SIOS|2RIEUL-PANSIOS"),
  (0x316D, "0HANGUL LETTER RIEUL-YEORINHIEUH|2MIEUM-PIEUP|2MIEUM-SIOS|2MIEUM-PANSIOS|2KAPYEOUNMIEUM|2PIEUP-KIYEOK|2PIEUP-TIKEUT|2PIEUP-SIOS-KIYEOK"),
  (0x3175, "0HANGUL LETTER PIEUP-SIOS-TIKEUT|2PIEUP-CIEUC|2PIEUP-THIEUTH|2KAPYEOUNPIEUP|2KAPYEOUNSSANGPIEUP|2SIOS-KIYEOK|2SIOS-NIEUN|2SIOS-TIKEUT|2SIOS-PIEUP"),
  (0x317E, "0HANGUL LETTER SIOS-CIEUC|2PANSIOS|2SSANGIEUNG|2YESIEUNG|2YESIEUNG-SIOS|2YESIEUNG-PANSIOS|2KAPYEOUNPHIEUPH|2SSANGHIEUH|2YEORINHIEUH|2YO-YA|2YO-YAE"),
  (0x3189, "0HANGUL LETTER YO-I|2YU-YEO|2YU-YE|2YU-I|2ARAEA|2ARAEAE"),
  (0x3190, "0IDEOGRAPHIC ANNOTATION LINKING MARK|2REVERSE MARK|2ONE MARK|2TWO MARK|2THREE MARK|2FOUR MARK|2TOP MARK|2MIDDLE MARK|2BOTTOM MARK|2FIRST MARK"),
  (0x319A, "0IDEOGRAPHIC ANNOTATION SECOND MARK|2THIRD MARK|2FOURTH MARK|2HEAVEN MARK|2EARTH MARK|2MAN MARK|0BOPOMOFO LETTER BU|2ZI|2JI|2GU|2EE|2ENN|2OO|2ONN|2IR"),
  (0x31A9, "0BOPOMOFO LETTER ANN|2INN|2UNN|2IM|2NGG|2AINN|2AUNN|2AM|2OM|2ONG|2INNN|1FINAL LETTER P|3T|3K|3H|1LETTER GH|2LH|2ZY|1FINAL LETTER G|1LETTER GW|2KW|2OE"),
  (0x31BF, "0BOPOMOFO LETTER AH|0CJK STROKE T|2WG|2XG|2BXG|2SW|2HZZ|2HZG|2HP|2HZWG|2SZWG|2HZT|2HZZP|2HPWG|2HZW|2HZZZ|2N|2H|2S|2P|2SP|2D|2HZ|2HG|2SZ|2SWZ|2ST|2SG"),
  (0x31DB, "0CJK STROKE PD|2PZ|2TN|2SZZ|2SWG|2HXWG|2HZZZG|2PG|2Q"),
  (0x31F0, "0KATAKANA LETTER SMALL KU|3SI|3SU|3TO|3NU|3HA|3HI|3HU|3HE|3HO|3MU|3RA|3RI|3RU|3RE|3RO|0PARENTHESIZED HANGUL KIYEOK|2NIEUN|2TIKEUT|2RIEUL|2MIEUM|2PIEUP"),
  (0x3206, "0PARENTHESIZED HANGUL SIOS|2IEUNG|2CIEUC|2CHIEUCH|2KHIEUKH|2THIEUTH|2PHIEUPH|2HIEUH|2KIYEOK A|2NIEUN A|2TIKEUT A|2RIEUL A|2MIEUM A|2PIEUP A|2SIOS A"),
  (0x3215, "0PARENTHESIZED HANGUL IEUNG A|2CIEUC A|2CHIEUCH A|2KHIEUKH A|2THIEUTH A|2PHIEUPH A|2HIEUH A|2CIEUC U|1KOREAN CHARACTER OJEON|3O HU"),
  (0x3220, "0PARENTHESIZED IDEOGRAPH ONE|2TWO|2THREE|2FOUR|2FIVE|2SIX|2SEVEN|2EIGHT|2NINE|2TEN|2MOON|2FIRE|2WATER|2WOOD|2METAL|2EARTH|2SUN|2STOCK|2HAVE|2SOCIETY"),
  (0x3234, "0PARENTHESIZED IDEOGRAPH NAME|2SPECIAL|2FINANCIAL|2CONGRATULATION|2LABOR|2REPRESENT|2CALL|2STUDY|2SUPERVISE|2ENTERPRISE|2RESOURCE|2ALLIANCE|2FESTIVAL"),
  (0x3241, "0PARENTHESIZED IDEOGRAPH REST|2SELF|2REACH|0CIRCLED IDEOGRAPH QUESTION|2KINDERGARTEN|2SCHOOL|2KOTO|1NUMBER TEN ON BLACK SQUARE|2TWENTY ON BLACK SQUARE"),
  (0x324A, "0CIRCLED NUMBER THIRTY ON BLACK SQUARE|2FORTY ON BLACK SQUARE|2FIFTY ON BLACK SQUARE|2SIXTY ON BLACK SQUARE|2SEVENTY ON BLACK SQUARE"),
  (0x324F, "0CIRCLED NUMBER EIGHTY ON BLACK SQUARE|0PARTNERSHIP SIGN|0CIRCLED NUMBER TWENTY ONE|3TWO|3THREE|3FOUR|3FIVE|3SIX|3SEVEN|3EIGHT|3NINE|2THIRTY|3ONE|3TWO"),
  (0x325D, "0CIRCLED NUMBER THIRTY THREE|3FOUR|3FIVE|1HANGUL KIYEOK|2NIEUN|2TIKEUT|2RIEUL|2MIEUM|2PIEUP|2SIOS|2IEUNG|2CIEUC|2CHIEUCH|2KHIEUKH|2THIEUTH|2PHIEUPH"),
  (0x326D, "0CIRCLED HANGUL HIEUH|2KIYEOK A|2NIEUN A|2TIKEUT A|2RIEUL A|2MIEUM A|2PIEUP A|2SIOS A|2IEUNG A|2CIEUC A|2CHIEUCH A|2KHIEUKH A|2THIEUTH A|2PHIEUPH A"),
  (0x327B, "0CIRCLED HANGUL HIEUH A|1KOREAN CHARACTER CHAMKO|3JUEUI|1HANGUL IEUNG U|0KOREAN STANDARD SYMBOL|0CIRCLED IDEOGRAPH ONE|2TWO|2THREE|2FOUR|2FIVE|2SIX"),
  (0x3286, "0CIRCLED IDEOGRAPH SEVEN|2EIGHT|2NINE|2TEN|2MOON|2FIRE|2WATER|2WOOD|2METAL|2EARTH|2SUN|2STOCK|2HAVE|2SOCIETY|2NAME|2SPECIAL|2FINANCIAL|2CONGRATULATION"),
  (0x3298, "0CIRCLED IDEOGRAPH LABOR|2SECRET|2MALE|2FEMALE|2SUITABLE|2EXCELLENT|2PRINT|2ATTENTION|2ITEM|2REST|2COPY|2CORRECT|2HIGH|2CENTRE|2LOW|2LEFT|2RIGHT"),
  (0x32A9, "0CIRCLED IDEOGRAPH MEDICINE|2RELIGION|2STUDY|2SUPERVISE|2ENTERPRISE|2RESOURCE|2ALLIANCE|2NIGHT|1NUMBER THIRTY SIX|3SEVEN|3EIGHT|3NINE|2FORTY|3ONE|3TWO"),
  (0x32B8, "0CIRCLED NUMBER FORTY THREE|3FOUR|3FIVE|3SIX|3SEVEN|3EIGHT|3NINE|2FIFTY|0IDEOGRAPHIC TELEGRAPH SYMBOL FOR JANUARY|4FEBRUARY|4MARCH|4APRIL|4MAY|4JUNE"),
  (0x32C6, "0IDEOGRAPHIC TELEGRAPH SYMBOL FOR JULY|4AUGUST|4SEPTEMBER|4OCTOBER|4NOVEMBER|4DECEMBER|0SQUARE HG|1ERG|1EV|0LIMITED LIABILITY SIGN|0CIRCLED KATAKANA A"),
  (0x32D1, "0CIRCLED KATAKANA I|2U|2E|2O|2KA|2KI|2KU|2KE|2KO|2SA|2SI|2SU|2SE|2SO|2TA|2TI|2TU|2TE|2TO|2NA|2NI|2NU|2NE|2NO|2HA|2HI|2HU|2HE|2HO|2MA|2MI|2MU|2ME|2MO"),
  (0x32F3, "0CIRCLED KATAKANA YA|2YU|2YO|2RA|2RI|2RU|2RE|2RO|2WA|2WI|2WE|2WO|0SQUARE ERA NAME REIWA|1APAATO|1ARUHUA|1ANPEA|1AARU|1ININGU|1INTI|1UON|1ESUKUUDO"),
  (0x3308, "0SQUARE EEKAA|1ONSU|1OOMU|1KAIRI|1KARATTO|1KARORII|1GARON|1GANMA|1GIGA|1GINII|1KYURII|1GIRUDAA|1KIRO|1KIROGURAMU|1KIROMEETORU|1KIROWATTO|1GURAMU"),
  (0x3319, "0SQUARE GURAMUTON|1KURUZEIRO|1KUROONE|1KEESU|1KORUNA|1KOOPO|1SAIKURU|1SANTIIMU|1SIRINGU|1SENTI|1SENTO|1DAASU|1DESI|1DORU|1TON|1NANO|1NOTTO|1HAITU"),
  (0x332B, "0SQUARE PAASENTO|1PAATU|1BAARERU|1PIASUTORU|1PIKURU|1PIKO|1BIRU|1HUARADDO|1HUIITO|1BUSSYERU|1HURAN|1HEKUTAARU|1PESO|1PENIHI|1HERUTU|1PENSU|1PEEZI"),
  (0x333C, "0SQUARE BEETA|1POINTO|1BORUTO|1HON|1PONDO|1HOORU|1HOON|1MAIKURO|1MAIRU|1MAHHA|1MARUKU|1MANSYON|1MIKURON|1MIRI|1MIRIBAARU|1MEGA|1MEGATON|1MEETORU"),
  (0x334E, "0SQUARE YAADO|1YAARU|1YUAN|1RITTORU|1RIRA|1RUPII|1RUUBURU|1REMU|1RENTOGEN|1WATTO|0IDEOGRAPHIC TELEGRAPH SYMBOL FOR HOUR ZERO|5ONE|5TWO|5THREE|5FOUR"),
  (0x335D, "0IDEOGRAPHIC TELEGRAPH SYMBOL FOR HOUR FIVE|5SIX|5SEVEN|5EIGHT|5NINE|5TEN|5ELEVEN|5TWELVE|5THIRTEEN|5FOURTEEN|5FIFTEEN|5SIXTEEN|5SEVENTEEN|5EIGHTEEN"),
  (0x336B, "0IDEOGRAPHIC TELEGRAPH SYMBOL FOR HOUR NINETEEN|5TWENTY|5TWENTY-ONE|5TWENTY-TWO|5TWENTY-THREE|5TWENTY-FOUR|0SQUARE HPA|1DA|1AU|1BAR|1OV|1PC|1DM"),
  (0x3378, "0SQUARE DM SQUARED|2CUBED|1IU|1ERA NAME HEISEI|3SYOUWA|3TAISYOU|3MEIZI|1CORPORATION|1PA AMPS|1NA|1MU A|1MA|1KA|1KB|1MB|1GB|1CAL|1KCAL|1PF|1NF|1MU F|2G"),
  (0x338E, "0SQUARE MG|1KG|1HZ|1KHZ|1MHZ|1GHZ|1THZ|1MU L|1ML|1DL|1KL|1FM|1NM|1MU M|1MM|1CM|1KM|1MM SQUARED|1CM SQUARED|1M SQUARED|1KM SQUARED|1MM CUBED|1CM CUBED"),
  (0x33A5, "0SQUARE M CUBED|1KM CUBED|1M OVER S|4SQUARED|1PA|1KPA|1MPA|1GPA|1RAD|2OVER S|4SQUARED|1PS|1NS|1MU S|1MS|1PV|1NV|1MU V|1MV|1KV|1MV MEGA|1PW|1NW|1MU W"),
  (0x33BD, "0SQUARE MW|1KW|1MW MEGA|1K OHM|1M OHM|1AM|1BQ|1CC|1CD|1C OVER KG|1CO|1DB|1GY|1HA|1HP|1IN|1KK|1KM CAPITAL|1KT|1LM|1LN|1LOG|1LX|1MB SMALL|1MIL|1MOL|1PH"),
  (0x33D8, "0SQUARE PM|1PPM|1PR|1SR|1SV|1WB|1V OVER M|1A OVER M|0IDEOGRAPHIC TELEGRAPH SYMBOL FOR DAY ONE|5TWO|5THREE|5FOUR|5FIVE|5SIX|5SEVEN|5EIGHT|5NINE|5TEN"),
  (0x33EA, "0IDEOGRAPHIC TELEGRAPH SYMBOL FOR DAY ELEVEN|5TWELVE|5THIRTEEN|5FOURTEEN|5FIFTEEN|5SIXTEEN|5SEVENTEEN|5EIGHTEEN|5NINETEEN|5TWENTY|5TWENTY-ONE"),
  (0x33F5, "0IDEOGRAPHIC TELEGRAPH SYMBOL FOR DAY TWENTY-TWO|5TWENTY-THREE|5TWENTY-FOUR|5TWENTY-FIVE|5TWENTY-SIX|5TWENTY-SEVEN|5TWENTY-EIGHT|5TWENTY-NINE|5THIRTY"),
  (0x33FE, "0IDEOGRAPHIC TELEGRAPH SYMBOL FOR DAY THIRTY-ONE|0SQUARE GAL")]

end CharName
end ScopeChain
