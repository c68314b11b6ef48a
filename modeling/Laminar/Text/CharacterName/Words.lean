/-!
# Names of characters: frequent words

The words that the tables of names abbreviate.  The first 26 have one small letter each, from `a` to
`z`, the others two, from `aa` on.
-/

namespace Laminar.Text

/-- Frequent words of names, in the order of their abbreviations. -/
def frequentWords : String :=
  "LETTER WITH CAPITAL SMALL FORM ARROW SIGN RIGHT ABOVE ISOLATED RIGHTWARDS DOUBLE BELOW FINAL
    LEFT AND VERTICAL LEFTWARDS INITIAL THREE TRIANGLE-HEADED STROKE SYMBOL HORIZONTAL BLACK WHITE
    DOWNWARDS HUNDRED THOUSAND MIDDLE BRACKET CIRCUMFLEX WEST-CREE TRIANGLE MARK GREATER-THAN
    DIAERESIS HEAVY ARROWHEAD SQUARE CIRCLE UPWARDS REVERSED EIGHT TIMES FOUR SEVEN HOOK LESS-THAN
    YPOGEGRAMMENI FIVE PERISPOMENI INVERTED POINTING PUNCTUATION MEDIUM PARENTHESIS MEDIAL TURNED
    PROSGEGRAMMENI INDEX TWO EQUAL MAKSURA VOWEL LIGHT ORNAMENT ROTATED TILDE ONE DIGIT LOWER MEEM
    ANUSVARA SINGLE DOT PLUS VOCALIC RETROFLEX ACUTE RIGHT-POINTING HALF DOWN HARPOON DESCENDER
    ASTERISK CANDRABINDU NINE COMBINING CIRCLED DIAGONAL DEGREES OPERATOR MACRON NUMBER UPPER FACE
    THUMB DOTS OVER DASIA PSILI EXCLAMATION LITTLE CENTRE ALEF SEPARATOR LARGE LEFT-POINTING GRAVE
    EQUILATERAL QUOTATION RING HAND-FIST DIAMOND LIGATURE BARB ANTICLOCKWISE MOVEMENT-FLOORPLANE
    VARIA COMMA TRIPLE CROSSING ZERO BLOCK SANS-SERIF MOVEMENT-WALLPLANE VISARGA MODIFIER
    ABBREVIATION POINTED SQUARED QUESTION BREVE TRIANGULAR TONE OPEN SEVENTY JEEM LONG QUARTER
    VIRAMA TWENTY INTERSECTION LATIN ANGLE CONSONANT ALTERNATE SHORT ALTERNATING SIX ACCENT HIGH
    HITTING LINE DOTTED NINETY STOP BAR UNDERBAR HAND-CIRCLE HAND-HINGE NORTH CEDILLA PALATAL
    C-SIMPLIFIED STRAIGHT SUPERSET EQUALS CLOSED UPSILON GLOTTAL DIGRAPH CROSS YENISEI CARON SOUTH
    IDEOGRAPHIC CONJOINED EPSILON BOTTOM EAST CORNER OXIA DOWN-POINTING MULTIPLICATION YEH
    UP-POINTING STAR SOLIDUS SECTION FINGERS EQUIVALENT ORKHON OMEGA OVERLAY DOUBLE-STRUCK
    SUPERSCRIPT FRACTION TAIL INTEGRAL KNIGHT ARCHAION KHAH WEST REVERSE HAMZA CHARACTER VARIANT
    SLANTED NEUTRAL EIGHTH GUNU FULL TORTOISE RAISED SUBSET ALPHA SCRIPT COPTIC SYLLABLE FIFTY LOW
    COLON CHESS DIALYTIKA ARCHAIC IOTIFIED ARABIC-INDIC HAH AVAGRAHA NEGATIVE DAGESH CRYPTOGRAMMIC
    TABULATION HAND-ANGLE DANDA OMICRON INSULAR FORWARD QUARTERS THIRTY CLOCKWISE QUADRANT HEART
    TTHA DASH TENU TEN MAHAAPRAANA CROSSED-TAIL SIMALUNGUN BETWEEN SMILING TWO-HEADED CYRILLIC DDHA
    TEARDROP-SPOKED DIAMONDS SEMICOLON TELEPHONE NOON CURLY SIGMA NGA SHA GREEK THETA ARABIC INSIDE
    NUKTA ALPAPRAANA MULTIPLE PRECEDES SUCCEEDS SHADOWED OBLIQUE QUADRUPLE EIGHTHS SHELL SPOKED
    ROTATION-FLOORPLANE HORN TACK CHA NOTEHEAD DOTLESS NYA THROUGH APOSTROPHE KHA LENTICULAR
    ROTATION-WALLPLANE CHARACTERS HEARTS SPACE GAMMA INDEPENDENT ITERATION LEFT-STEM SHAFT IOTA
    ALMOST SAMEKH THA MUSICAL FROM ARROWS PRODUCT LOGICAL OVERBAR LOZENGE CROSSED PERSON HAND MOUTH
    KATAKANA-HIRAGANA KATAKANA CIRCLES HINGED NOT SHIN BENT DELTA OGONEK CANDRA"

end Laminar.Text
