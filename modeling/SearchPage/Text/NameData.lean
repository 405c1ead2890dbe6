import SearchPage.Text.RangeTable

/-!
# Character names of Unicode 14: the tables

The names Unicode 14.0 gives to characters, packed for size. Names are words of capital
letters and digits joined by a blank, a hyphen, a blank and a hyphen, or a hyphen and a
blank. The words are numbered by how often they occur, the most frequent first, and each
is written by its number in a digit alphabet of 80 characters: one digit for the first 55
words, two for the next 1600 and three for the rest, the first digit telling which, so that
the numbers of a name can be read back one after the other. A blank between words is left
out; the other joins are written `-`, `<` (blank and hyphen) and `>` (hyphen and blank).

The names of the ideographs and syllables that are formed by rule are not here, nor those
that are a prefix and the code point in hexadecimal; only which code points carry the
latter.
-/

namespace SearchPage.Text

/-- The words of names, most frequent first, separated by blanks. -/
def nameWords : String :=
  String.join [
    "LETTER SIGN WITH SMALL SYLLABLE CAPITAL HIEROGLYPH LATIN ARABIC YI CUNEIFORM SYMBOL MATHEMATICAL ",
    "EGYPTIAN DIGIT A FORM VOWEL COMPONENT TANGUT CANADIAN SYLLABICS SIGNWRITING TIMES BAMUM AND ARROW ",
    "BOLD ANATOLIAN PHASE HANGUL NUMBER LINEAR COMBINING LIGATURE RIGHT GREEK ETHIOPIC LEFT MUSICAL OLD ",
    "E ABOVE FOR DOUBLE MARK CYRILLIC SQUARE ITALIC U CIRCLED DOTS SERIF RADICAL SANS ONE O FINAL TWO ",
    "B TAI I BLACK MODIFIER BELOW DOT HAND THREE VAI WHITE HENTAIGANA TO SELECTOR VARIATION VERTICAL PATTERN ",
    "BRAILLE STROKE BYZANTINE KATAKANA ISOLATED FOUR MIDDLE OF HEAVY MYANMAR D HOOK FIVE KANGXI KIKAKUI ",
    "MENDE C INITIAL KA TIBETAN CJK MEEM HMONG TONE UP MOVEMENT RIGHTWARDS TRIANGLE YEH COPTIC ZNAMENNY ",
    "CARRIER PA PLUS S R FACE BOX CIRCLE SQUARED GEORGIAN CHEROKEE MONGOLIAN DOWN BLOCK INDEX HALF LOWER ",
    "HORIZONTAL L DEVANAGARI LEFTWARDS SIX EIGHT UPPER POINTING HA ALEF LOW BAR MIAO LIGHT VOCALIC KHMER ",
    "N TILE WEST DRAWINGS HEADED HIGH SEVEN DUPLOYAN IDEOGRAPH HUNDRED NINE BRACKET PARENTHESIZED THAM ",
    "GONDI JONGSEONG GLAGOLITIC HEBREW TAMIL THUMB CREE MALAYALAM OVER RA SIYAQ PAHAWH F FIST THAN YA ",
    "CHOSEONG BALINESE MA HALFWIDTH MEROITIC NA DIAGONAL LONG SCRIPT IDEOGRAPHIC OPEN RING TURNED 2 WALLPLANE ",
    "IDEOGRAM SA TA ALCHEMICAL EQUAL HAH NEUME BRAHMI LA THOUSAND INDIC M NUMERIC SINHALA HUNGARIAN DOWNWARDS ",
    "MEDIUM TILDE BARB FLOORPLANE NORTH TAG UPWARDS DA Y FULLWIDTH G T HIRAGANA JEEM GA PUNCTUATION DOMINO ",
    "K TELUGU V ACUTE CYPRO FRAKTUR MINOAN FRACTION H MEDIAL NEGATIVE SIDDHAM BHAIKSUKI NEWA STRUCK ARMENIAN ",
    "BENGALI CHESS LINE OR SHARADA CHARACTER JUNGSEONG P Z BA LARGE SOUTH ZERO GUJARATI JAVANESE MEDEFAIDRIN ",
    "ORIYA CURSIVE KANNADA REVERSED SYRIAC AA RUNIC TANGSA ADLAM CONSONANT X CARD NEW SINGLE THAI 3 GRANTHA ",
    "LUE SOGDIAN CITI J SUBJOINED TEN WARANG CHAM DASIA PLAYING SOYOMBO WA LAO SAURASHTRA TIRHUTA W 1 ",
    "AI ANGLE CIRCUMFLEX SHORT TETRAGRAM DESERET GURMUKHI HAMZA II MAYEK MEETEI MODI NOTATION PSILI SIOS ",
    "NUMERAL RIEUL ARROWHEAD DIAERESIS GA2 NGA AU BOPOMOFO GRAVE MASARAM JA LAM LEPCHA MACRON SHA STOP ",
    "TAIL UU CA LAK OMEGA TURKIC VIET AKURU ALPHA DIVES OSAGE PIEUP SUNDANESE ZANABAZAR CHAKMA LITTLE ",
    "NYIAKENG PUACHUE APL FUNCTIONAL VITHKUQI ACCENT KHUDAWADI MAKSURA ON TELEGRAPH 4 KAITHI KHAH KHAROSHTHI ",
    "LIMBU MARCHEN NOON TAKRI TWENTY CHA INVERTED CENTRE KHA NOT NYA AHOM LI NANDINAGARI ORNAMENT ROTATED ",
    "ARABIAN HARPOON HEXAGRAM IN EAST GUNJALA LAGAB GREATER KHOJKI MONOSPACE NKO OXIA SAMARITAN VARIA ",
    "COMMA LESS OTTOMAN THA 5 DOGRA Q SEXTANT STAR TRIPLE BREVE NUN TIFINAGH WANCHO HAU AEGEAN CIN INSCRIPTIONAL ",
    "PAU YU ASH BATAK EN ETA GUNU PAHLAVI PHAGS AVESTAN CYPRIOT PHA VA HITTING IOTA YO ACROPHONIC ALBANIAN ",
    "ANUSVARA CAUCASIAN DEGREES PERSIAN TEH WIDE CROSS FULL PI ROMAN UNIFIED KAYAH MANICHAEAN MOUTH NO ",
    "ROHINGYA SEEN TTA DDA HANIFI KAF TE THAANA TOP ZA CARIAN DISC HE HEH LE LISU OL THIRTY CHIKI DHA ",
    "OO SHAVIAN UPSILON VEDIC DIAMOND GHA MU OPERATOR PE PERISPOMENI SHE YEZIDI 6 ASTERISK CLOSED KIYEOK ",
    "MTAVRULI PARENTHESIS PHAISTOS ROTATION SHAN AIN BEH CARON DOTTED HI NAGRI NNA SYLOTI BHA MAHJONG ",
    "OE SHEEN THE WAW ALI GALI MRO NE NI PERMIC TIKEUT EE NEUTRAL ORKHON RETROFLEX TTHA DASH FA MIEUM ",
    "TENU VIRAMA ALTERNATE ARCHAIC BASSA DDHA DESCENDER EIGHTH ELBASAN HINGE NABATAEAN OSMANYA QUARTER ",
    "RR SSA SUBSCRIPT TAH BOTTOM CURVE MAHAJANI AN EPSILON FEH MULTANI NIEUN NINETY POINTED REH SECTION ",
    "SIDE VISARGA YPOGEGRAMMENI CORNER HIEUH INSTRUMENTAL ME MI REJANG VAH AE CURLY EQUALS FROM JHA LU2 ",
    "QAF STRAIGHT FIFTY GLOTTAL HO LL NU SOMPENG SORA TACK CANDRABINDU DUG FLAT HORN KNIGHT RAISED SAD ",
    "SEVENTY STRELA 7 DAY INDICATOR KI PRESENTATION SHIN SO WAVE AFFIX COLON CROSSING DAD DINGBAT HEART ",
    "HIEROGLYPHIC IGI PALMYRENE RO SHELL VARIANT WO ARAMAIC DIGRAPH END EZEN FINGERS IMPERIAL RUMI SIMPLIFIED ",
    "TOTO UGARITIC VERY YENISEI YUS BENT BUGINESE DANDA FORTY KO MO OMICRON PARTHIAN QUOTATION SU TSA ",
    "TU WE CEDILLA CONJOINED GAR HEAD KISIM5 KU LOGICAL LYCIAN MANDAIC MOON OGHAM PALATAL PHOENICIAN PSALTER ",
    "QUESTION RU SAG SI SPOKED TODO VESSEL VOCAL 00 01 02 03 04 05 06 CHORASMIAN CIEUC EPACT KE PROSGEGRAMMENI ",
    "RHO SLANTED SUPERSCRIPT UD AT CLOCK DAG GOTHIC LLA LOOP LOOPED LYDIAN MINUS NEO NINDA2 NOTE POINT ",
    "SE URU WI BETWEEN BU CHI EXCLAMATION EYES GHAIN HATRAN HOUR IEUNG LAING LU REGIONAL SEPARATOR SHAFT ",
    "SIGMA SUBSET SUPERSET TI TORTOISE UYGHUR INTEGRAL KHAMTI MAKASAR NOTEHEAD NUKTA PHI QUAD STRETCHED ",
    "THETA UNDERBAR ATTIC CHE DAGESH EQUILATERAL GI INDEPENDENT QUADRANT SMILING SOLIDUS THEH ALTERNATING ",
    "DE DISH EL ELYMAIC EM OVERLAY RI SIBE TAGALOG UE WORD ANTICLOCKWISE ARM CROSSED CURL DO EXTENDED ",
    "GAMMA GAN2 GISH LEAF LENGTH MAI MAN PERSON PHIEUPH RE SPACE TRIANGULAR ZE ZHA AB ATTACHED DOTLESS ",
    "HANUNOO MANCHU MEM REVERSE SIXTY STEM THO TIP TRUMP YE ARC AS BUHID CLAN CUP CURVED DELTA EU HINGED ",
    "INSULAR LEG LO MAYAN NG QA RRA THIEUTH UNION 8 AB2 ABBREVIATION AL ANNOTATION ARCHAION BAD BETA BI ",
    "CHIEUCH DAL DI DU ESH INSIDE KUR OUT RED SHADOWED SIDEWAYS TONOS VAS VULGAR BLACKFOOT COUNTING FILL ",
    "FLOOR FORWARD FTHORA GHE GURAGE INTERSECTION KAPPA KAREN KING PAP PO QUEEN RESH REST ROD TAGBANWA ",
    "TAILED TAU TYPE WALL ALEPH ARROWS ARY AYIN BETH CEILING CIRCLES DIALYTIKA FLAG GIMEL GU GUD HEARTS ",
    "HU IE MUSH OBLIQUE PRAM PSI SAYISI SOUND TAW TONGUE TRAVEL VE ALMOST AVAGRAHA BARRED CIM CLOCKWISE ",
    "EARTH HETH HYPHEN IOTIFIED KAPH KHIEUKH KOMI ROUND SADHE SAMEKH SHAD SHESHIG SLASH SPREAD SUN TAK4 ",
    "TH TWELVE YODH ZAIN ZHE 9 BACK BE BIG CANDRA DENTISTRY EIGHTHS EIGHTY EMPTY EQUIVALENT ER ES IM KASKAL ",
    "KOET LAGAR LAMEDH MGO NASKAPI OGONEK PANSIOS QUARTERS RISING ROC ROUNDED SHADE SHU THROUGH TSHA U2 ",
    "XA XI ZAYIN BIRGA BISHOP BULLET CAN CHECK CLUBS DIAMONDS EO FACING FARSI FATHA FINGER GO HUMP KASRA ",
    "LAMDA NOR NUNUZ NYI PWO ROOK SARA SHADDA SHAPED SOFT SPADES THIRD TONAL TSE WATER WRIST XIANGQI ZAH ",
    "ANG BALLOT BINDU CAT DALETH DAP DASHED DZA ELEMENT ELEVEN ET FRONT ICHOS LOZENGE MARTYRIA MINNAN ",
    "MON MULTIPLE MULTIPLICATION OM OVAL OVERBAR PADA PALI POVYSHE PRECEDES PRODUCT PU RTAGS SHIM SUCCEEDS ",
    "VOICED WOODS ZETA 617 AH AY BALL BO BY CLEF CO DESCRIPTION DOES E2 ENG EZH FE HANGZHOU JE KEHEH KHO ",
    "KRYZHEM LAL LUM MEASURED MURDA NATTILIK NUBIAN OCLOCK OJIBWAY PAWN PRIME SCHWA SECOND SEMICOLON SHA3 ",
    "SHAR2 TEDUNG TELEPHONE UNIT UR2 USH YANG YEO YIG ZIGZAG ZO ZU 648 BELT BESIDE CHO CLICK CLUSTER CURRENCY ",
    "DAMMA FALLING FI FIFTEEN FIGURE FILLER FIRE FO HAA INVERSE JO KIEVAN KIRGHIZ KLYUCHEVAYA KRYUKOVAYA ",
    "LEK MADDA MEN MID NOSE OCR PHO PILLA QUADRUPLE RAYS RIBBON SAL SALT SALTIRE SHO SIMALUNGUN SKAMEYTSA ",
    "SSANGSIOS STATYA TENS TETH TREE TSHEG UM WAVY WIDTH WIND WU YERU ZI ALPAPRAANA AM ASH2 ATTAK BRACKETED ",
    "BUT CARET CHINESE CLOUD DYNAMIC DZ EF EH ESH2 EYE FISH FLEX GAD GAF GE HARD HORA KAK LITH LOCATION ",
    "LUNATE MAHAAPRAANA MALE NORMAL NOTCHED PAGE PARALLEL PII PREFIXED QOPH RDEL RECYCLING SEGMENTED SHADED ",
    "SIMILAR SIXTEEN SVARITA TAB THESPIAN TICK TWELFTHS UNDER VO WESTERN YESIEUNG YOD APOSTROPHE ASTROLOGICAL ",
    "BAMBOOS BARREE BRANCH BUBBLE BUR CE CENTRED CHARACTERS CHILLU CLAW CONTAINING CONTAINS CRYPTOGRAMMIC ",
    "DIGRAM EI EIGHTEEN EMOJI ENVELOPE EXTRA EYEGAZE FIRST FU GAL GESH2 HANDS HHA HORSE IMAGE ITERATION ",
    "KAVYKA KEY LARGEST METRICAL MONOGRAM NEITHER NYO PEE PEH PIECE PINWHEEL RECTANGLE REFORMED REPEAT ",
    "RHA SANDHI SET SHU2 SLOAN SUIT TEARDROP TEXT THEN THIRDS TWIG UN UR VI VINE YAE YAT YIN 11 ABKHASIAN ",
    "AGOGI AIRPLANE AMPERSAND ANO AR ARAEA AWAY BACKHAND BEGIN BEI BLUE BUD BUON CAR COMPRESSED COPPER ",
    "CRESCENTS CUM DIALECT DIE DIVISION DODEKATA DRAGON DZE ELLIPSIS ENDING ETH EXTENSION FISHHOOK FOURTEEN ",
    "GOAL GREEN HUB2 ICE IS JAPANESE JI JOINER JOT LENTICULAR LHA LIMB LIPS LOGOGRAM LONSUM MAHAPRANA ",
    "MARKER MFON MOUNTAIN MUOY NAGA NAME NINETEEN NIZKO NJE NUNAVIK OPPOSING ORE OU OUTLINED OVERLINE ",
    "PAIRED PER PHARYNGEAL PROLATIONE RUPEE SASAK SECANT SEE SEVENTEEN SHEI SIMANSIS SIXTEENTH STAFF STATERS ",
    "STICK SUBGROUP SUBUNIT SUKUN SVETLAYA TEMPUS THAL THIRTEEN THORN THOUSANDS TOWARDS TRIGRAM TUAREG ",
    "TUG2 TURNSTILE VEE VERTICALLY VRAKHIYA WAY WOMAN ZAPYATAYA 10 12 13 14 449 AD ANGLED ANTIMONY ARKTIKO ",
    "BACKSLASH BAN2 BBA BELL CHEST DAGGER DIATONIKI DIESIS DIGA DIM DIPLI DOLLAR DUN3 EAR ENCLOSING EYEBROWS ",
    "FATHATAN FEATHERED FEE FITA FOLDER FOURTH GAN GI4 GIR2 GU2 HAIR HAT HEEL JU KAPYEOUNPIEUP KATO KET ",
    "LEVEL LUGAL MALO MASH MEASURE MILLIONS MOUSE NASALIZED NGO ODD OPENING PLACE PLASTICS POST POWERS ",
    "RAIN REGULUS SH SHARP SHIMA SHOE SHWE SPEAKER SPEECH SPIRAL SSANGKIYEOK SUBLIMATE SURROUND TAA TALENTS ",
    "TALLY TAM TAR TCHEH TEETH TENSE TET THI TIR TSI VOS VU WITHIN WRINKLED YFESIS 15 16 18 AEN AIR AITON ",
    "AK APPROXIMATELY AV BABY BALLOON BARLINE BEE BEND BET BOOK BOW BRIDGE BROKEN BRUSH BURU BUTTON CHEEKS ",
    "CONTACT CONTROL CORNERS CRESCENT CUPPED CURLICUE DEE DIFFERENTIAL DIGAMMA DIVIDER DOG DRUM DUB DVOECHELNAYA ",
    "EAT ECH EK ENT ENY EPIGRAPHIC EQUIHOPPER ERIN2 ERROR EVEN EXTREMELY FEMALE FLICK GANGIA GAP GGA GIR3 ",
    "GLASS GREAT GROMOPOVODNAYA HAL HAR HIP HOLDING HOOKED HORI HOUSE IMPERFECTA INFINITY IOTATED IZHE ",
    "IZHITSA JEE JIHVAMULIYA KAI KAN KEN KHEI KHOKHLOM KISS KNIFE KOPPA KU3 KUSHU2 LEIMMA LIGHTED LLLA ",
    "LOO LU3 MBAA MUSH3 MYA NAA NABLA NARROW NDA NET NHA NJI NUMERATOR ORANGE OSOKA OTTAVA PAA PALM PARTIAL ",
    "PEAKS PEN PIRIG POSITION POWER RADI RAE REPA RICE RUSSIAN SAMPI SAN SAR SCISSORS SHARU SHI SHID SHIR ",
    "SPLIT SQUEEZE SSANGPIEUP SSANGTIKEUT STILE SUBSTITUTION SUM SUNG SWASH TALL TATWEEL TEE TIE TILTED ",
    "TOO TREMOLO TROEZENIAN TTEH TUR UA UK UPADHMANIYA URUDA VAV VOLAPUK VRACHY VYSOKO WEIGHT WIGGLY XE ",
    "YAA YEE YEORINHIEUH YN ZAPYATOY 17 23 24 A709 ADEG AFRICAN ALAYHE ALL ALLAAHU ANUDATTA APLI AQ BAHAR2 ",
    "BAL BARS BBE BEEH BEHEH BOARD BREATHY BUILDING CASKET CHAR CHARIOT CHART CHRIVI CIRCULAR CLOSING ",
    "COMMERCIAL COW CRUCIBLE CUBED CURVING DAMMATAN DHE DISK DKAR DOACHASHMEE DOCUMENT DOUBLED DYEH DZHA ",
    "EC ELAMITE ENTRY ERA EZ FENCE FILE FITZPATRICK FLATTENED FLOURISH FLOWER FRANKS FREE GAA GEE GEMINATION ",
    "GESHU GHUNNA GOLUBCHIK GORAZDO GORGON GRINNING GTER GUEH HENG HIE HOO HOT IDIM IMPERFECTUM INPUT ",
    "INTERROBANG IR IRON IU JACK JIL JJA JOINED KAD3 KAL KANA KASRATAN KENTIMATA KEYBOARD KOMBUVA KOO ",
    "KOREAN KPA KSSA LAA LAME LIGHTNING MAP MBA MECHIK MEDAL MOBILE MONKEY MUCH MV MYSLITE NAG NAR NASAL ",
    "NDOLE NEPOSTOYANNAYA NESTED NGGA NGOEH NIGHT NJEE NN NNNA NOTES NYEH OA OH OI ONCOMING ORIGINAL OVERLAPPING ",
    "OW PAD PARAGRAPH PARESTIGMENON PATH PEHEH PENTAGON PERCENT PLUTO POINTER POLE PON POO PRIZNAK PWA ",
    "QAR QI QU RAA RANGE REE REPETITION RETURN RNOON ROCKET ROOT ROTUNDA RUB SALAAM SCREEN SEMICIRCLE ",
    "SEMIDIRECT SHOULDER SII SMILE SOO SSANGCIEUC START STRESS SUMMATION SWIRL TALING TCHEHEH TEHEH THAA ",
    "THEE THESEOS TINY TITLO TRAFFIC TRIDENT TTE TTEHEH TUM TURTLE TWE UIGHUR UKRAINIAN UMBRELLA VEH WAA ",
    "WALK WITHOUT WOO YAJURVEDIC YELLOW YEN YER YOT YR ZEE ZEN 123 124 125 126 134 136 145 146 156 19 ",
    "234 235 236 238 245 25 256 26 36 45 AC ACE AG ALAYHI ALTA AMAR AO APPROXIMATE AQUA AROUND ARROWHEADS ",
    "ARSEOS BAA BAG BALAG BAN BANKNOTE BASE BEAMED BHE BIRD BONE BOTTLE BOWTIE BULUG CAMERA CANCELLATION ",
    "CANTILLATION CAP CENTRALIZATION CHECKER CHEE CHIN CHROMA CHU CI CIL CLUB CONCAVE CROP CUATRILLO CUSP ",
    "DALET DANG DDDA DEGREE DEL DELIMITER DEVICE DEZH DIASTOLI DIGORGON DIMINUTION DIN DIRECTION DJE DLA ",
    "DON DOWNWARD DRAUGHTS DREAMY DYO DZELO EASTERN EGYPTOLOGICAL EIE EKFONITIKON ELECTRIC ELLIPSE ENC ",
    "EP ERR EX FAA FEATHER FIXED FLOPPY FLORETTE FOOD FOOT FORK FORMAT FRAME FROWN FROWNING GABA GBE GHAN ",
    "GLOBE GOLD GRASS GROMNAYA GROMOKRYZHEVAYA GUR HAE HAMMER HEAVEN HEE HELMET HOE HOURGLASS HP HV IA ",
    "IDENTICAL IMIN INSERT INTEGRATION ISOLATE ISOSCELES JHAN JOIN JOKER KAA KANG KAPA KENTIMA KHAR KHI ",
    "KHUEN KID KISSING KK KLASMA KM KNUCKLE KPO KRYZH KSI KUL KUT KWAA KWE KWI KYEE LAI LAMED LAS LEE ",
    "LENGA LENGTHENER LEZH LIP LJE LOCK LONGA LOQ LOTUS MAILBOX MARBUTA MBE MBEE MCHU MEAT MEMBER MERCURY ",
    "MIM MIN MM MONOCULAR MUG MUSIC MWA MWI NDAA NDE NDU NGAA NGI NIKOLSBURG NON NOW NTAP NTEUM NWA NYAM ",
    "NYIS OBOLS OHM OIL OK OOU OT OUTPUT OX PALAUNG PAPER PAR PARENTHESES PATAH PEDESTAL PENCIL PENTAGRAM ",
    "PERFECTA PHAR PHONE PIG PLA POETRY POLICE POSTAL POT POUND POVODNAYA PROSTAYA PWI QAMATS QE QO QUILL ",
    "QUILT RAD RAFE RAILWAY RAM RAT RECEIVER RELATION REN RII RUDIMENTA RUM SAA SANYAKA SATANGA SCAN SEBATBEIT ",
    "SEQUENTIAL SERIFS SGAW SHAKING SHEE SHHA SHII SHITA SHOGI SHORTHAND SHORTS SIG4 SILHOUETTE SIN SIXTEENTHS ",
    "SKEWED SLAVEY SLIGHTLY SLOZHITIE SNAKE SPIRIT SQUARES SQUIGGLE SS SSANGNIEUN STRATUM SUKU SUR SUU ",
    "SVASTI SWEAT TAN TESH THIN THUMBS TIGER TIKHAYA TILTING TOGETHER TOOTH TOPBAR TORSO TRESVETLAYA TROMIKON ",
    "TS TSO TSU TTHO TURN UC UDATTA UI ULU UMUM US VANE VIN VINEGAR WASLA WEE WELSH WHEEL WINE WOMANS ",
    "WYNN XAN XYEEM YAH YERI YIDDISH YOO YOQ YUT YYA ZAL ZATA ZHAR ZHEE ZZA 050 079 081 102 127 128 130 ",
    "135 137 138 142 147 148 157 158 167 168 178 20 21 210 219 220 225 228 237 246 247 248 27 34 345 346 ",
    "347 348 35 356 37 38 39 456 457 46 47 48 50 51 52 53 54 56 A2 AELA ALIF ALLO ALTERNATIVE ANGER ANJI ",
    "ANSHE APOSTROFOS ARISTERA ASHGAB ASSYRIAN AW AXE AYB AZU BACKSLANTED BAMBOO BANK BAT BATH BAYANNA ",
    "BEAM BEAVER BEHIND BEN BILABIAL BLACKLETTER BOLT BORAX BOWL BREAK BREATH BRICK BROWN BUBBLES BUKY ",
    "BUS BZHI CAA CAKE CALENDAR CALL CARIK CASTLE CCHE CHASHKA CHICK CHILD CHRISTMAS CHROA CHRONON CLIFF ",
    "CLOSE CLOTH CLOTHES CM COLD COMPLETION COMPOSITION COMPUTER CONSTANT CONSTRUCTION CONTAIN CONTOUR ",
    "COO COUNCIL COVER COVERING CREDIT CROCUS CRYING CU CUBE CURRENT CUT CWA CWAA CWI DAHAL DANTAJA DAYANNA ",
    "DDAHAL DDAL DDAYANNA DDO DECIMAL DEER DENE DENTAL DEPARTING DESCENDING DIM2 DIRECT DIVIDE DIVIDED ",
    "DJERV DJERVI DM DOBRO DRACHMA DROP DRY DUL DUN DWE EA EB ELEPHANT ENCLOSURE ENN EPIDAUREAN ESASA ",
    "ETERNITY EURO EV EVIL EW EXO EYELASHES FACTOR FANEROSIS FAX FEED FENG FERMATA FIFTH FIFTHS FINGERED ",
    "FLEURON FLORAL FLY FLYING FOM FOO FOREHEAD FORMEE FRITU FROG FUNCTION GATHERING GAYANNA GAYANUKITTA ",
    "GBA GBU GEAR GERESH GESHTIN GGE GHHA GHOST GIM GJE GLAGOLI GOAT GRACE GRASP GSUM GUM HALANTA HAN ",
    "HARKLEAN HATAF HBASA HEADSTROKE HERMIONIAN HERU HEXAGON HLI HNA HOLAM HON HUMAN HUNDREDS HWE IB IC ",
    "ICON IH INCREASE INFORMATION ING INI INSERTION INTERLINEAR INVISIBLE IO IQ ISH ISON IT IY JAYANNA ",
    "JEGOGAN JEH JONA JOY KA2 KAD5 KAKO KAPYEOUNMIEUM KAPYEOUNPHIEUPH KARO KATHAKA KAY KEE KEH KETTI KHE ",
    "KHYIL KIN KKA KNUCKLES KOI KORONIS KRATIMA KUOP KW KWA KXA KYA LAAM LAKH LAP LAST LAZY LEADER LEATHER ",
    "LEERAEWA LET LETTERS LH LIMMU LINES LISH LJUDIJE LOVE LUH LUL LWA LY MAA MACHINE MAEM MAEMBA MANDAILING ",
    "MAPIQ MASK MB MBI MBIT MBO MBOO MBU MEDIEVAL MEE MEEEE MEGA MES MEUT MILITARY MINIMA MIT MNAS MONEY ",
    "MONOGRAPH MONTH MOO MOOD MOUND MRACHNAYA MULTIMAP MULTISET MUURDHAJA MWAA MWE NAH NASALIZATION NASHI ",
    "NATURAL NDAP NDEE NDI NDO NEE NEN NEWLINE NGGE NGGEN NGGO NGGOO NGGU NGOM NIM NIN NJAEM NJU NOO NRA ",
    "NSHA NSHUT NTEE NUNG NV NWAA NYE NYET NYU NZA OFF OFFICE OLDER ONU OP OPPOSITION OQ OUTER OVERLAID ",
    "OVERLAP OXEIA OY PAN PARAGRAPHOS PARAKALESMA PARAKLITIKI PART PARTY PAW PEACE PEDAL PEPET PERFECTUM ",
    "PERPENDICULAR PEUX PHE PICTURE PING PIWR PLACEHOLDER PODCHASHIE POKOJI POLISH POMMEE POP POUTING ",
    "PREGNANT PRISHTHAMATRA PTHAHA PUAE PURPLE PUSHPIN PUT PWAA PWE QAA QAAF QOF QOO QUO QUU RACING RAP ",
    "RATHA RAY REPEATED REUX RISH RITSI ROCK ROG ROSETTE RREH RUNNING SAFETY SAM SAT SAW SAYANNA SCHEMA ",
    "SCHOOL SEAL SEGMENT SEGOL SEMI SEMIBREVIS SEMICIRCULAR SEMIMINIMA SEUX SHCHA SHEEP SHESH SHIELD SHIP ",
    "SHOO SHOQ SHTA SHWA SIDED SILK SIMA SIXTH SKLIRON SKULL SLEEPING SLOVO SNOUT SNOW SNOWFLAKE SNOWMAN ",
    "SOT SOURCE SPACING SPHERICAL SPOON SSANGIEUNG SSANGRIEUL SSI SSO SSU ST STACCATO STEP STIGMA STOCK ",
    "STONE STOPITSA STRANNO STRIKE STROKES STUCK SUA SUBLINEAR SULFUR SUPRALINEAR SURFACE SUSPENSION SV ",
    "SWA SWAA SYMBOLS SYNAGMA TAALUJA TABLE TAE TARGET TAV TEARS TENT TENTH TESSERA TETARTOS THII THOO ",
    "THOUGHT THREAD THU THUNDER THWA THWAA TIGHT TIL TIME TLA TLE TLHA TLI TLO TLU TOUCH TRA TRAIN TRANSPOSITION ",
    "TREND TRUCK TRUE TSADI TSATA TT TTHAA TTO TVRIDO TWA TWAA TWENTIETH UH UKU UPTURN UUE VAREIA VEDE ",
    "VERSE VEW VY WAE WAU WAVES WAVING WEDGE WEO WHEAT WHEELCHAIR WHOLE WON WOOD WORK WRINKLES WUE XEH ",
    "XW YAGH YAJ YAK YATI YAZH YESTU YIT YIWN YUQ YWA YWAA YY ZEMLJA ZHI ZHIVETE ZHO ZHU ZQAPHA ZU5 003 ",
    "020 021 025 030 051 062 080 092 100 101 103 104 105 106 107 108 109 110 111 112 113 114 115 116 117 ",
    "118 119 120 121 122 1234 12345 12346 1235 12356 1236 1245 12456 1246 1256 129 131 132 133 1345 13456 ",
    "1346 1356 1358 139 140 141 143 144 1456 149 150 151 152 153 154 155 159 160 161 162 163 164 165 166 ",
    "169 170 171 172 173 174 175 176 177 179 180 181 182 183 184 185 186 187 188 189 190 191 192 193 194 ",
    "195 196 197 198 199 200 201 202 203 204 205 206 207 208 209 211 212 213 214 215 216 217 218 22 221 ",
    "222 223 224 226 227 229 230 231 232 233 2345 23456 2346 2356 239 240 241 242 243 244 2456 249 250 ",
    "251 252 253 254 255 257 258 265 266 267 268 278 28 29 30 32 343 3456 357 358 367 368 378 383 384 ",
    "390 40 42 43 441 450 458 467 468 470 478 483 49 490 492 493 495 4E09 4E8C 550 567 568 57 578 58 608 ",
    "6253 636 668 67 678 68 724 749 78 A001 A002 A003 A004 A005 A006 A007 A008 A009 A010 A011 A012 A013 ",
    "A014 A015 A016 A017 A018 A019 A020 A021 A022 A023 A024 A025 A026 A027 A028 A029 A030 A031 A032 A033 ",
    "A034 A035 A036 A037 A038 A039 A040 A041 A042 A043 A044 A045 A045A A046 A047 A048 A049 A050 A051 A052 ",
    "A053 A054 A055 A056 A057 A058 A059 A060 A061 A062 A063 A064 A065 A066 A067 A068 A069 A070 A100 A301 ",
    "A302 A303 A304 A305 A306 A307 A308 A309A A310 A311 A312 A314 A315 A316 A317 A318 A319 A320 A321 A322 ",
    "A323 A324 A325 A326 A327 A328 A329 A330 A331 A333 A334 A335 A336 A337 A338 A339 A340 A341 A342 A343 ",
    "A344 A345 A346 A347 A348 A349 A350 A351 A352 A353 A354 A355 A356 A357 A358 A359 A360 A361 A362 A363 ",
    "A364 A365 A366 A367 A368 A369 A370 A371 A400 A401 A402 A403 A404 A405 A406 A407 A408 A409 A410 A411 ",
    "A412 A413 A414 A415 A416 A417 A418 A501 A502 A503 A504 A505 A506 A508 A509 A510 A511 A512 A513 A515 ",
    "A516 A520 A521 A523 A524 A525 A526 A527 A528 A529 A530 AAI AAN AAY ACADEMY ACCOUNT ACKNOWLEDGE ACTIVATE ",
    "ACTUALLY ADULT AEB AEDA AEE AEG AEK AESC AET AEY AKARA AKHMIMIC ALAF ALAPH ALEMBIC ALEUT ALFA ALIEN ",
    "ALKALI ALLAAH ALLI ALLIANCE ALVEOLAR AMB ANCHOR ANCORA ANGLICANA ANTARGOMUKHA ANTENNA ANTIMONIATE ",
    "ANTIRESTRICTION AP APESO APLOUN APODERMA APOSTROFOI APPLE ARAD ARCH ARDHAVISARGA ARGI ARGOSYNTHETON ",
    "ARPEGGIATO ARTS ASCENDING ASHES ASPIRATION ASYMPTOTICALLY ATHAPASCAN ATIU AUE AURAMAZDAA AUTOMOBILE ",
    "AWX AX AYAH AYN AZ B001 B002 B003 B004 B005 B006 B007 B008 B009 BADGER BALUDA BANDAGE BASELINE BASHKIR ",
    "BATHTUB BATTERY BBI BBO BBU BBUT BCAD BEAR BEAT BEER BEETLE BENZENE BERBER BEVERAGE BHETH BHO BICYCLIST ",
    "BINARY BINDI BINDING BINOCULAR BIT BITING BJARKAN BLADE BLANK BLENDED BLINK BLOOD BLOSSOM BLOWING ",
    "BOAR BOAT BODY BOHAIRIC BOO BOOKMARK BOOMERANG BOOT BOTH BOUQUET BRA BRDA BREAD BREVIS BRIGHTNESS ",
    "BROAD BUILDINGS BULLHORN BWA BWEE BWI BYELORUSSIAN BZUNG CADUCEUS CAKRA CALYA CAMEL CANCEL CANNON ",
    "CARPENTRY CART CAUDATE CAULDRON CAYANNA CAYN CC CD CECAK CEE CENT CENTRELINE CER CH CHAA CHAIR CHAT ",
    "CHEH CHELYUSTKA CHEVRON CHOREVMA CHRONOU CHURCH CIP CIRCLING CIRCUIT CITY CITYSCAPE CLINKING COAT ",
    "CON CONGRATULATION CONJOINING CONSECUTIVE CONVERGING COOKIE COPRODUCT COPYRIGHT CREAM CRICKET CROSSBAR ",
    "CROSSBONES CROSSHATCH CROWN CULTIVATION CUOP CWE CWII CWO CWOO CY CYA CYP CYT DAA DAALI DAHYAAUSH ",
    "DALATH DALDA DAMP DAR DARA3 DARK DARKENING DAT DATE DB DCHE DDAA DDDHA DDE DDHAA DDHO DDI DDU DDUR ",
    "DEATH DECORATION DECREASE DEI DELETE DEMESTVENNY DENOMINATOR DEPARTURE DERET DESERT DESKTOP DEXIA ",
    "DEYTEROS DH DHO DIB DIFONIAS DIGRAMMOS DIRECTIONAL DIRECTLY DISAPPOINTED DISIMOU DISSOLVE DIVINATION ",
    "DIZZY DJA DOI DOLLS DONG DOO DOOR DOVE DRACHMAS DRAM DRESS DRINK DRIVE DROPLET DUNG DV DVOECHELNOPOVODNAYA ",
    "DZEE DZHE DZI DZJE DZO DZU DZUD DZWE DZZE DZZHE EAGLE EARS EARTHLY ECS ED EG EGG EGY EHCHA EHKA EHPA ",
    "EHTA EHTSA EIGHTIETHS EIN EJ ELIFI ELY EMBEDDING EMP EMPHASIS ENCLOSURES ENGINE ENTER ENTERPRISE ",
    "EPENTHETIC ERASE EREN ERIS ESCAPE ESHE3 ESZ ETERON ETY EUROPEAN EWE EYN EZS FAMILY FAN FATHER FEI ",
    "FEMININE FIELD FILM FINANCIAL FLAME FLATBREAD FLEXUS FLIP FLUTE FLUTTERING FOLLOWING FONT FOOTBALL ",
    "FOOTNOTE FORKED FORTIETH FOUNTAIN FOX FRENCH FRETBOARD FUE FUR FUSA FWA FWAA FWEE FWI GAAHLAA GAETTA ",
    "GAH GAMAL GAME GAPPED GARSHUNI GATE GAY GBEE GBI GBO GBOO GCIG GENERAL GENIKI GEOMETRICALLY GEP GERSHAYIM ",
    "GESTURE GGI GGO GGOP GGU GGUO GHAA GHAD GHEUAE GHO GIBBOUS GLISSANDO GNYIS GORGI GORTHMIKON GOT GRAM ",
    "GREGORIAN GROUND GROUP GRU GUARD GUG GUL GUR7 GV GWA GWE GWEE GWI GYAS GYON HAGALL HANDED HANDLE ",
    "HASANTA HATE HAVE HEADSTONE HEI HEN HET HETA HG HHAA HHWA HIDET HII HIN HIRIQ HIT HIYO HLA HMO HOCKEY ",
    "HOLE HOLLOW HOLO HOMOTHETIC HORNS HORR HOTEL HTA HUGGING HUN HWAIR HXIT HXOP HXUO HYA HYPHENATION ",
    "HZ IAN IAUDA ICHIMATOS IDENTIFICATION IG IJ IJE IKARA IL ILIMMU INHERENT INHIBIT INNER INTERIOR INTERLACED ",
    "INTERPOLATION INTERSECTING ISEN ISSHAR IX IYEK JAA JADE JAR JAW JHEH JIIM JJI JJIE JJO JJU JJUT JJY ",
    "JNYA JOO JWA KAAF KAB KABA KAD2 KAH KAP KAPYEOUNRIEUL KAPYEOUNSSANGPIEUP KASHMIRI KAYANNA KAZAKH ",
    "KEEPING KEMPLI KEMPUL KESH2 KEUM KEUX KEYCAP KG KHAA KHAI KHAKASSIAN KHANG KHAPH KHHA KHHO KHMU KINNA ",
    "KIP KIT KJE KLYUCH KLYUCHENEPOSTOYANNAYA KOK KON KONTEVMA KORANIC KOTO KP KPE KPEE KPI KPOO KPU KRYUK ",
    "KU4 KUN KVA KWEE KWII KWO KWOO LABIAL LABOR LAE LAKE LAMP LAN LANE LANES LANTANG LANTERN LARGER LATERAL ",
    "LATINATE LAULA LAW LAYANNA LCE LEANING LEEEE LEGETOS LEGGED LELET LENIS LESH LESSER LEU LHAA LHI ",
    "LHO LID LIE LINED LING LINK LIQUID LIRA LIS LITTER LIWN LJ LOCOMOTIVE LOGOTYPE LOM LOOT LOWERED LS ",
    "LUGGAGE LV LWAA LWE LWI LWII LWO LWOO LYR LZ M001 M002 M003 M004 M005 M006 M007 M008 M009 M010 M011 ",
    "M012 M013 M014 M015 M016 M017 M018 M019 M020 M021 M022 M023 M024 M025 M026 M027 M028 M029 M030 M031 ",
    "M032 M033 M034 M035 M036 M037 M038 M039 M040 M041 M042 M043 M044 MADDAH MADR MAE MAESI MAGNIFYING ",
    "MAH MALAKON MANDARIN MAQ MAR MARCATO MASH2 MAY MBANYI MBEN MBEUM MC MCHAN MDUN MECHANICAL MEEJ MEET ",
    "MELON MERGE MERKHA MESH MESO METAL MEUN MGBA MHA MICROPHONE MIDLINE MIEE MIG MIIM MILLE MIRROR MLA ",
    "MONOFONIAS MONOGRAMMOS MOP MORTAR MOTHER MOTOR MOVE MPA MUAE MUAN MUCAAD MVOP MW MWEE MWII MWO MWOO ",
    "MY NA2 NAASIKYAYA NAE NAKAARA NAM NAM2 NANA NAQ NATIONAL NAUD NAYANNA NBIE NDAM NDOO NECK NEGATED ",
    "NENOE NEPTUNE NEQUDAA NEST NEWSPAPER NGAS NGE NGEN NGGAAM NGGEE NGGEUAET NGGI NGGUOQ NGHA NGKA NGKUE ",
    "NGKWAEN NGON NGOP NGOU NIB NII NJ NJA NJAEMLI NJAM NJEUX NJO NJOO NJUAE NJUEQ NKAARAE NODE NORTHERN ",
    "NOTCH NOTEBOOK NOZHKA NSHIEE NSIEE NTAA NTOG NTUU NU11 NUAE NUENG NULL NUT NUTILLU NWE NWI NWII NWO ",
    "NWOO NY NYAA NYEE NYHA NYIN NYIP NYIT NYOP NZUP OAY OCTAGON OEE OEK OIN OKARA OKTO OLIGON OLIVE OMET ",
    "OMISSION ONG ONN OOE OPTICAL ORDINAL ORNATE OS OSS OTU OUNCE OV OVERLONG OVERRIDE OVERSTRUCK OYRANISMA ",
    "PAAM PAGES PAKPAK PALOCHKA PAMADA PAMPHYLIAN PAMUDPOD PANGOLAT PANTI PARA PARALLELOGRAM PARAPHRASE ",
    "PARTNERSHIP PASANGAN PASSIVE PATTY PAYANNA PAYEROK PEDESTRIAN PELASTON PENNANT PENTASEME PEOPLE PEPPER ",
    "PERCUSSIVE PEREVODKA PERNIN PERSONAL PESH2 PESO PETALLED PHAA PHILIPPINE PHRASE PHUR PIASMA PICK ",
    "PIE PILCROW PIN PIP PIPAEMBA PIPAEMGBIEE PISELEH PIT PITCHFORK PLAGIOS PLANCK PLANE PLOPHU PLUTA ",
    "PNEUMATA POLI POLLU PORRECTUS POSSESSION POTABLE POTATO PRECEDE PRECEDING PREPONDERANCE PRINT PRINTER ",
    "PROLONGED PROPELLER PROPORTION PROTOS PSIFISTON PUE PULL PUP PWEE PWII PWOO PYT QAI QATAN QII QITSA ",
    "QOT QUA QUE QUI QUINDICESIMA QUOTE QUV QWE QWEE QWI RABBIT RACQUET RADIO RAISING RAMS RANA RBASA ",
    "RDO REACH READING REALGAR RECORD RECTANGULAR RECTILINEAR RECYCLED REDUPLICATION REGIA RELAXED RELIEVED ",
    "REPLACEMENT RERENGGAN RESOURCE RESPONSE RESTRICTED REVOLVING REX RGYA RGYAN RGYINGS RIEE RIKRIK RINGS ",
    "RIPPLE RJE RNAM RNYING ROL ROLLER ROLLING ROMANIAN ROO ROTATIONS RRE RRO RULE RULER RUMAI RWA RWAA ",
    "RY SADE SAFHA SAH SALLA SALLALLAHOU SALTILLO SAMBA SANDAL SANSKRIT SAP SARI SATELLITE SAY SCANDICUS ",
    "SCOOTER SCOTS SEGNO SEH SEISMA SELF SEMISOFT SEMIVOWEL SEMKATH SESAME SEXTULA SGAB SHA6 SHAA SHANG ",
    "SHAPES SHAPING SHAT SHELF SHET SHEUX SHIFT SHIQ SHIRT SHOG SHOP SHOPPING SHOY SHRI SHRIMP SHTAPIC ",
    "SHUR SHWAA SHWI SHWII SHWO SHWOO SHY SIG SIGMOID SIGNS SIK2 SILA3 SIMULTANEOUS SINDHI SINNYIIYHE ",
    "SIXTHS SIXTIETH SIZE SJE SKATE SKI SLICE SLOPING SLOW SLUR SMALLER SMASH SMOKING SOAP SOCIETY SOF ",
    "SOL SOLDIER SOLID SOM SOROCHYA SOU SOUTHERN SPADE SPARKLE SPEAR SPECIAL SPEED SPIDER SPIDERY SPIRITUS ",
    "SPLAYED SQUAT SQUIRREL SREDNE SSANGHIEUH SSE SSUU STAMPED STANDARD STAVROS STEAM STICKING STORE STRING ",
    "STRONG STUDY SUBJOINER SUBSTITUTE SUCCEED SUCKED SUE SUHUR SUNGLASSES SUNRISE SUPER SUPERVISE SURANG ",
    "SW SWAPPING SWE SWEET SWI SWII SWO SWOO SYMMETRIC TAAALAA TABULATION TAMING TANGENT TANNED TAPE TARTAR ",
    "TAT TAXI TAYANNA TC TCHE TEAR TELEIA TELISHA TELOUS TENNIS TERMINAL TETARTIMORION TETRASEME TETRASIMOU ",
    "TEUAEN TEUAEQ THEMA THEMATISMOS THERE THERMOMETER THETHE THONG TIGHTLY TIKHY TIRONIAN TIT TITA TIWN ",
    "TJE TLHE TLHI TLHO TLV TOQ TORCULUS TOT TOTAL TOUCHING TOUCHTONE TRACK TRADITIONAL TRAM TRANSMISSION ",
    "TRAY TRESILLO TRICOLON TRIGRAMMOS TRISEME TRISIMOU TRITIMORION TROKUTASTI TROPICAL TRUNK TSEE TSHE ",
    "TSHES TSHOOK TSSE TSV TSWE TTAA TTAYANNA TTHE TTHI TTI TTTA TTUDDAAG TUK TUOT TUP TURBAN TWENTIETHS ",
    "TWI TWII TWOO TXWV TYR TZ UB UBADAMA UEX UEZ UKARA UNDERLINE UNDERTIE UNIVERSAL UNK UNN UO UPWARD ",
    "URANUS USED UY UZ3 VAA VAMAGOMUKHA VEND VEP VICTORY VIDA VIDEO VIDJ VIETNAMESE VISIGOTHIC VITAE VITRIOL ",
    "VIYO VOICING VOO VOU VUR WAITING WANING WAP WASALLAM WATCH WAX WAXING WC WEARY WEI WHALE WII WINDOW ",
    "WINDU WINKING WOLOSO WOOL WRENCH WRITING WULU WUO WV XO XVA XYA XYE YAKH YAM YAN YAP YAQ YAR YAWN ",
    "YAY YAZ YEAR YFEN YHE YIE YOGH YPOKRISIS YUDH YUJ YUM YUOP YUWOQ YV YWE YWI YWII YWO YWOO ZA7 ZAA ",
    "ZADERZHKA ZAKRYTAYA ZAQEF ZAYN ZEMLYA ZHWE ZIB ZIDA ZIZ2 ZJE ZLA ZLAMA ZOO ZOT ZUP ZUR ZY ZZE ZZI ",
    "ZZIET ZZO ZZU 001 002 004 005 006 007 008 009 010 011 012 013 014 015 016 017 018 019 022 023 024 ",
    "026 027 028 029 031 032 033 034 035 036 037 038 039 040 041 042 043 044 045 046 047 048 049 052 053 ",
    "054 055 056 057 058 059 060 061 063 064 065 066 067 068 069 070 071 072 073 074 075 076 077 078 082 ",
    "083 084 085 086 087 088 089 090 091 093 094 095 096 097 098 099 123456 1234567 12345678 1234568 123457 ",
    "1234578 123458 123467 1234678 123468 12347 123478 12348 123567 1235678 123568 12357 123578 12358 ",
    "12367 123678 12368 1237 12378 1238 124567 1245678 124568 12457 124578 12458 12467 124678 12468 1247 ",
    "12478 1248 12567 125678 12568 1257 12578 1258 1267 12678 1268 1278 134567 1345678 134568 13457 134578 ",
    "13458 13467 134678 13468 1347 13478 1348 13567 135678 13568 1357 13578 1367 13678 1368 1378 14567 ",
    "145678 14568 1457 14578 1458 1467 14678 1468 1478 1567 15678 1568 1578 1678 234567 2345678 234568 ",
    "23457 234578 23458 23467 234678 23468 2347 23478 2348 23567 235678 23568 2357 23578 2358 2367 23678 ",
    "2368 2378 24567 245678 24568 2457 24578 2458 2467 24678 2468 2478 2567 25678 2568 2578 259 260 261 ",
    "262 263 264 2678 269 270 271 272 273 274 275 276 277 279 280 281 282 283 284 285 286 287 288 289 ",
    "290 291 292 293 294 295 296 297 298 299 300 301 302 303 304 305 306 307 308 309 31 310 311 312 313 ",
    "314 315 316 317 318 319 320 321 322 323 324 325 326 327 328 329 33 330 331 332 333 334 335 336 337 ",
    "338 339 340 341 342 344 34567 345678 34568 3457 34578 3458 3467 34678 3468 3478 349 350 351 352 353 ",
    "354 355 3567 35678 3568 3578 359 360 361 362 363 364 365 366 3678 369 370 371 372 373 374 375 376 ",
    "377 379 380 381 382 385 386 387 388 389 391 392 393 394 395 396 397 398 399 400 401 402 403 404 405 ",
    "406 407 408 409 41 410 411 412 413 414 415 416 417 418 419 420 421 422 423 424 425 426 427 428 429 ",
    "430 431 432 433 434 435 436 437 438 439 44 440 442 443 444 445 446 447 448 451 452 453 454 455 4567 ",
    "45678 4568 4578 459 460 461 462 463 464 465 466 4678 469 471 472 473 474 475 476 477 479 480 481 ",
    "482 484 485 486 487 488 489 491 494 496 497 498 499 4E00 4E2D 4EA4 500 501 502 503 504 505 506 507 ",
    "508 509 510 511 512 513 514 515 516 517 518 518D 519 520 521 521D 522 523 524 524D 525 526 527 5272 ",
    "528 529 52DD 530 531 532 533 534 535 536 537 538 539 53CC 53F3 540 5408 541 542 543 5439 544 545 ",
    "546 547 548 549 55 551 552 553 554 555 556 557 558 559 55B6 560 561 562 563 564 565 566 5678 569 ",
    "570 571 572 573 574 575 576 577 579 580 581 582 583 584 585 586 587 588 589 58F0 59 590 591 591A ",
    "592 5929 593 594 595 596 597 598 599 5B57 5B89 5DE6 5F8C 60 600 601 602 603 604 605 606 607 609 61 ",
    "610 611 612 613 614 615 616 618 619 62 620 621 622 623 624 624B 625 626 627 628 629 6295 63 630 6307 ",
    "631 632 633 634 635 6355 637 638 639 64 640 641 642 643 644 645 646 647 649 65 650 651 652 653 654 ",
    "655 6557 656 657 658 659 6599 65B0 66 660 661 662 6620 663 664 665 666 667 669 670 6708 6709 671 ",
    "672 672C 673 674 675 676 677 679 680 681 682 683 684 685 686 687 688 689 69 690 691 692 693 694 695 ",
    "696 697 698 699 6E80 6F14 70 700 701 702 703 704 705 706 707 708 709 70B9 71 710 711 712 7121 713 ",
    "714 715 716 717 718 719 72 720 721 722 723 725 726 727 728 729 73 730 731 732 733 734 735 736 737 ",
    "738 739 74 740 741 742 743 744 745 746 747 748 75 750 751 751F 752 753 7533 754 755 756 757 758 759 ",
    "76 760 761 762 763 764 765 766 767 768 76D7 77 79 7981 7A7A 7D42 80 81 82 83 84 85 86 87 88 89 89E3 ",
    "8CA9 8D70 90 904A 91 914D 92 93 94 95 96 97 98 99 A005A A006A A006B A010A A014A A017A A026A A028B ",
    "A032A A039A A040A A041A A042A A043A A046A A046B A066A A066B A066C A071 A072 A073 A074 A075 A076 A077 ",
    "A078 A079 A080 A081 A082 A083 A084 A085 A086 A087 A088 A089 A090 A091 A092 A093 A094 A095 A096 A097 ",
    "A097A A098 A098A A099 A100A A101 A101A A102 A102A A103 A104 A104A A104B A104C A105 A105A A105B A106 ",
    "A107 A107A A107B A107C A108 A109 A110 A110A A110B A111 A112 A113 A114 A115 A115A A116 A117 A118 A119 ",
    "A120 A120B A121 A122 A123 A124 A125 A125A A126 A127 A128 A129 A130 A131 A131C A132 A133 A134 A135 ",
    "A135A A136 A137 A138 A139 A140 A141 A142 A143 A144 A145 A146 A147 A148 A149 A150 A151 A152 A153 A154 ",
    "A155 A156 A157 A158 A159 A160 A161 A162 A163 A164 A165 A166 A167 A168 A169 A170 A171 A172 A173 A174 ",
    "A175 A176 A177 A178 A179 A180 A181 A182 A183 A184 A185 A186 A187 A188 A189 A190 A191 A192 A193 A194 ",
    "A195 A196 A197 A198 A199 A200 A201 A202 A202A A202B A203 A204 A205 A206 A207 A207A A208 A209 A209A ",
    "A210 A211 A212 A213 A214 A215 A215A A216 A216A A217 A218 A219 A220 A221 A222 A223 A224 A225 A226 ",
    "A227 A227A A228 A229 A230 A231 A232 A233 A234 A235 A236 A237 A238 A239 A240 A241 A242 A243 A244 A245 ",
    "A246 A247 A248 A249 A250 A251 A252 A253 A254 A255 A256 A257 A258 A259 A260 A261 A262 A263 A264 A265 ",
    "A266 A267 A267A A268 A269 A270 A271 A272 A273 A274 A275 A276 A277 A278 A279 A280 A281 A282 A283 A284 ",
    "A285 A286 A287 A288 A289 A289A A290 A291 A292 A293 A294 A294A A295 A296 A297 A298 A299 A299A A3 A300 ",
    "A309 A309B A309C A313 A313A A313B A313C A329A A332 A332A A332B A332C A336A A336B A336C A359A A364A ",
    "A368A A371A A372 A373 A374 A375 A376 A377 A378 A379 A380 A381 A381A A382 A383 A383A A384 A385 A386 ",
    "A386A A387 A388 A389 A390 A391 A392 A393 A394 A395 A396 A397 A398 A399 A410A A419 A420 A421 A422 ",
    "A423 A424 A425 A426 A427 A428 A429 A430 A431 A432 A433 A434 A435 A436 A437 A438 A439 A440 A441 A442 ",
    "A443 A444 A445 A446 A447 A448 A449 A450 A450A A451 A452 A453 A454 A455 A456 A457 A457A A458 A459 ",
    "A460 A461 A462 A463 A464 A465 A466 A467 A468 A469 A470 A471 A472 A473 A474 A475 A476 A477 A478 A479 ",
    "A480 A481 A482 A483 A484 A485 A486 A487 A488 A489 A490 A491 A492 A493 A494 A495 A496 A497 A507 A514 ",
    "A517 A518 A519 A522 A531 A532 A534 A535 A536 A537 A538 A539 A540 A541 A542 A545 A547 A548 A549 A550 ",
    "A551 A552 A553 A554 A555 A556 A557 A559 A563 A564 A565 A566 A568 A569 A570 A571 A572 A573 A574 A575 ",
    "A576 A577 A578 A579 A580 A581 A582 A583 A584 A585 A586 A587 A588 A589 A591 A592 A594 A595 A596 A598 ",
    "A600 A601 A602 A603 A604 A606 A608 A609 A610 A611 A612 A613 A614 A615 A616 A617 A618 A619 A620 A621 ",
    "A622 A623 A624 A626 A627 A628 A629 A634 A637 A638 A640 A642 A643 A644 A645 A646 A648 A649 A651 A652 ",
    "A653 A654 A655 A656 A657 A658 A659 A660 A661 A662 A663 A664 A701 A702 A703 A704 A705 A706 A707 A708 ",
    "A710 A711 A712 A713 A714 A715 A717 A726 A732 A800 A801 A802 A803 A804 A805 A806 A807 AA001 AA002 ",
    "AA003 AA004 AA005 AA006 AA007 AA007A AA007B AA008 AA009 AA010 AA011 AA012 AA013 AA014 AA015 AA016 ",
    "AA017 AA018 AA019 AA020 AA021 AA022 AA023 AA024 AA025 AA026 AA027 AA028 AA029 AA030 AA031 AA032 AABAAFILI ",
    "AAJ AAK AALIH AAM AANG AAO AARU AAU AAW AAYANNA AAYIN AAZHAAKKU AB001 AB002 AB003 AB004 AB005 AB006 ",
    "AB007 AB008 AB009 AB010 AB011 AB013 AB016 AB017 AB020 AB021 AB021F AB021M AB022 AB022F AB022M AB023 ",
    "AB023M AB024 AB026 AB027 AB028 AB029 AB030 AB031 AB034 AB037 AB038 AB039 AB040 AB041 AB044 AB045 ",
    "AB046 AB047 AB048 AB049 AB050 AB051 AB053 AB054 AB055 AB056 AB057 AB058 AB059 AB060 AB061 AB065 AB066 ",
    "AB067 AB069 AB070 AB073 AB074 AB076 AB077 AB078 AB079 AB080 AB081 AB082 AB085 AB086 AB087 AB118 AB120 ",
    "AB122 AB123 AB131A AB131B AB164 AB171 AB180 AB188 AB191 ABACUS ABAFILI ABB ABUNDANCE ABYSMAL ACCEPT ",
    "ACCOMMODATION ACCORDION ACCUMULATION ADAK ADDAK ADDRESS ADDRESSED ADHESIVE ADI ADMETOS ADMISSION ",
    "ADO ADVANCE ADVANTAGE AED AEEYANNA AEL AENG AER AERIAL AES AESCULAPIUS AEYANNA AFFRICATION AFGHANI ",
    "AFOREMENTIONED AFRICA AFSAAQ AFTER AGAIN AGAINST AGE AGGRAVATED AGGRAVATION AGUNG AHAD AHAGGAR AHANG ",
    "AHH AHSA AHSDA AID AIHVUS AIKARA AILM AINN AINU AIVA AIVILIK AIYANNA AKAT AKBAR AKSA AKTIESELSKAB ",
    "ALAN ALARM ALAYHAA ALAYHIM ALAYHIMAA ALAYNAA ALF ALGIZ ALIFU ALIGNED ALLAH ALLAHOU ALPA ALPAPRANA ",
    "ALT ALTERNATION ALUM AMALGAM AMALGAMATION AMBA AMBULANCE AMERICAN AMERICAS AMMONIAC AMOUNT AMPHORA ",
    "AMPS AMULET ANAP ANATOMICAL ANATRICHISMA ANDAP ANGED ANGEL ANGKA ANGKHANKHU ANGRY ANGSTROM ANGUISHED ",
    "ANGULAR ANH ANHAA ANHU ANHUM ANHUMAA ANHUNNA ANIMAL ANKH ANN ANNAAU ANNUITY ANPEA ANSUZ ANT ANTIFONIA ",
    "ANTIKENOKYLISMA ANTIKENOMA ANUSVARAYA AOR AOU APAATO APART APIN APODEXIA APOLLON APOTHEMA APOTHES ",
    "APPLICATION APPROACH APPROACHES APRIL APUN AQUAFORTIS AQUARIUS ARAEAE ARDHACANDRA ARE AREPA ARGON ",
    "ARGOTERI ARIES ARKAANU ARKAB ARLAUG ARMOUR ARMS ARMY AROURA AROUSING ARRAY ARRIVE ARRIVING ARSENIC ",
    "ARTA ARTABE ARTICULATED ARTIST ARUHUA ASAL2 ASAT ASCENT ASCIA ASH3 ASH9 ASIA ASPER ASPIRATED ASSALLAM ",
    "ASSERTION ASTERISCUS ASTERISKS ASTERISM ASTONISHED ASTRAEA ASTRONOMICAL ASYURA ASZ ATH ATHARVAVEDIC ",
    "ATHLETIC ATIKRAMA ATIYA ATMAAU ATNAH ATOM ATT ATTACHING ATTENTION ATTHACAN AUBERGINE AUGMENTATION ",
    "AUGUST AUNN AURAMAZDAAHA AURIPIGMENT AUSTRAL AUSTRALIA AUTO AUTOMATED AUTUMN AUYANNA AVAKRAHASANYA ",
    "AVERAGE AVOCADO AWC AWE AWQ AWZ AYANNA AYER AZZA B005A B010 B011 B012 B013 B014 B015 B016 B017 B018 ",
    "B019 B020 B021 B022 B023 B024 B025 B026 B027 B028 B029 B030 B031 B032 B033 B034 B036 B037 B038 B039 ",
    "B040 B041 B042 B043 B044 B045 B046 B047 B048 B049 B050 B051 B052 B053 B054 B055 B056 B057 B058 B059 ",
    "B060 B061 B062 B063 B064 B065 B066 B067 B068 B069 B070 B071 B072 B073 B074 B075 B076 B077 B078 B079 ",
    "B080 B081 B082 B083 B085 B086 B087 B089 B090 B091 B100 B102 B104 B105 B105F B105M B106F B106M B107F ",
    "B107M B108F B108M B109F B109M B120 B121 B122 B123 B125 B127 B128 B130 B131 B132 B133 B135 B140 B141 ",
    "B142 B145 B146 B150 B151 B152 B153 B154 B155 B156 B157 B158 B159 B160 B161 B162 B163 B164 B165 B166 ",
    "B167 B168 B169 B170 B171 B172 B173 B174 B176 B177 B178 B179 B180 B181 B182 B183 B184 B185 B189 B190 ",
    "B191 B200 B201 B202 B203 B204 B205 B206 B207 B208 B209 B210 B211 B212 B213 B214 B215 B216 B217 B218 ",
    "B219 B220 B221 B222 B225 B226 B227 B228 B229 B230 B231 B232 B233 B234 B236 B240 B241 B242 B243 B245 ",
    "B246 B247 B248 B249 B250 B251 B252 B253 B254 B255 B256 B257 B258 B259 B305 BAARERU BACKSPACE BACON ",
    "BACTRIAN BADGE BADMINTON BAG3 BAGA BAGEL BAGGAGE BAGS BAGUETTE BAH BAHIRGOMUKHA BAHT BAIMAI BAIRKAN ",
    "BALD BALLET BALLPOINT BANANA BAND BANG BANJO BANTOC BAP BARA2 BARBED BARBER BARIYOOSAN BARLEY BARREKH ",
    "BARRIER BASEBALL BASH BASKET BASKETBALL BATHAMASAT BAU BAX BB BBAA BBAP BBAT BBAX BBEE BBEP BBEX ",
    "BBIE BBIEP BBIET BBIEX BBIP BBIT BBIX BBOP BBOT BBOX BBUO BBUOP BBUOX BBUP BBUR BBURX BBUX BBY BBYP ",
    "BBYT BBYX BEACH BEADS BEAN BEANS BEARDED BEATING BECAUSE BED BEEHIVE BEETA BEFORE BEGINNER BEGINNING ",
    "BEITH BELGTHOR BELLHOP BENDE BENTO BEORC BEP BERKANAN BEX BEYYAL BH BHAA BHAM BHATTIPROLU BHEE BHI ",
    "BHOO BHU BIB BIBLE BICEPS BICYCLE BICYCLES BIDENTAL BIE BIEP BIET BIEX BIKINI BILLED BILLIARDS BILLIONS ",
    "BINOVILE BIOHAZARD BIP BIRTHDAY BIRU BISAH BISECTING BISMILLAH BISMUTH BISON BITCOIN BITE BITTER ",
    "BIX BKA BLA BLOND BLOW BLOWFISH BLUEBERRIES BOA BOMB BOOKS BOOTS BOP BORUTO BORZAYA BORZY BOT BOUNDARY ",
    "BOWING BOWLING BOXING BOY BOYS BQ BRACE BRACKETS BRAIN BRAKCET BRANCHES BRANCHING BREAKING BREAKTHROUGH ",
    "BREAST BRI BRIDE BRIEFCASE BRIEFS BRISTLE BROCCOLI BRONZE BROOM BSDUS BSKA BSKUR BSTAR BUCKET BUCKLE ",
    "BUFFALO BUG BULB BULL BULLS BULLSEYE BUMPY BUNG BUNNY BUO BUOP BUOX BUOY BUP BUR2 BURRITO BURX BUSINESS ",
    "BUSSYERU BUST BUSTS BUTTER BUTTERFLY BUUMISH BUX BWE BXG BYP BYR BYRX BYT BYX C001 C002 C002A C002B ",
    "C002C C003 C004 C005 C006 C007 C008 C009 C010 C010A C011 C012 C013 C014 C015 C016 C017 C018 C019 ",
    "C020 C021 C022 C023 C024 CAAI CAANG CABBAGE CABINET CABLEWAY CACTUS CADA CAESURA CAH CAI CAL CALC ",
    "CALCULATOR CALX CAMNUC CAMPING CANCER CANDLE CANDY CANE CANG CANNED CANOE CAPITULUM CAPO CAPPED CAPRICORN ",
    "CAPTIVE CAPUT CARDS CARE CAROUSEL CARP CARRIAGE CARROT CARS CARTRIDGE CARTWHEEL CARYSTIAN CATAWA ",
    "CAU CAUDA CAUTION CAVE CAX CCA CCAA CCE CCEE CCHA CCHAA CCHEE CCHHA CCHHAA CCHHE CCHHEE CCHHI CCHHO ",
    "CCHHU CCHI CCHO CCHU CCI CCO CCU CEALC CECEK CEDI CEEB CEEV CEIRT CELEBRATION CELSIUS CELTIC CEN ",
    "CENTURIAL CEONGCHIEUMCHIEUCH CEONGCHIEUMCIEUC CEONGCHIEUMSIOS CEONGCHIEUMSSANGCIEUC CEONGCHIEUMSSANGSIOS ",
    "CEP CEREK CEREMONY CERES CEVITU CEX CHAD CHADA CHAINS CHAL CHAMILI CHAMILON CHAMKO CHAN CHANG CHANGE ",
    "CHAP CHAPTER CHATTAWA CHAU CHAVIYANI CHAX CHEEK CHEEM CHEERING CHEESE CHEIKHAN CHEIKHEI CHEINAP CHELNU ",
    "CHEN CHEP CHEQUERED CHERRIES CHERRY CHERY CHESTNUT CHET CHEX CHHA CHHIM CHICKEN CHIL CHILDREN CHIM ",
    "CHIME CHING CHINOOK CHIPMUNK CHIRET CHIRON CHITUEUMCHIEUCH CHITUEUMCIEUC CHITUEUMSIOS CHITUEUMSSANGCIEUC ",
    "CHITUEUMSSANGSIOS CHOA CHOCOLATE CHOE CHOKE CHOP CHOPSTICKS CHOT CHOX CHOY CHRYSANTHEMUM CHULA CHUO ",
    "CHUOP CHUOT CHUOX CHUP CHUR CHURX CHUX CHWA CHWV CHY CHYP CHYR CHYRX CHYT CHYX CIE CIEP CIET CIEX ",
    "CII CINEMA CINNABAR CIRCULATION CIRCUS CIT CITATION CIVILIAN CIX CL CLAIM CLAMSHELL CLAPPER CLAPPING ",
    "CLASSICAL CLEAR CLEAVER CLIMACUS CLIMBING CLINGING CLIPBOARD CLIVIS CLOSENESS CLOSET CLOSURE CLOVER ",
    "CLOWN CM001 CM002 CM004 CM005 CM006 CM007 CM008 CM009 CM010 CM011 CM012 CM012B CM013 CM015 CM017 ",
    "CM019 CM021 CM023 CM024 CM025 CM026 CM027 CM028 CM029 CM030 CM033 CM034 CM035 CM036 CM037 CM038 CM039 ",
    "CM040 CM041 CM044 CM046 CM047 CM049 CM050 CM051 CM052 CM053 CM054 CM055 CM056 CM058 CM059 CM060 CM061 ",
    "CM062 CM063 CM064 CM066 CM067 CM068 CM069 CM070 CM071 CM072 CM073 CM074 CM075 CM075B CM076 CM078 ",
    "CM079 CM080 CM081 CM082 CM083 CM084 CM085 CM086 CM087 CM088 CM089 CM090 CM091 CM092 CM094 CM095 CM096 ",
    "CM097 CM098 CM099 CM100 CM101 CM102 CM103 CM104 CM105 CM107 CM108 CM109 CM110 CM112 CM114 CM301 CM302 ",
    "COA COASTER COCKROACH COCKTAIL COCONUT CODA COENG COFFIN COIN COLL COLLISION COLOR COLUMN COMB COMBINATION ",
    "COMBINED COMET COMING COMMON COMPARE COMPASS COMPLEMENT COMPLETED COMPLIANCE COMPRESSION COMPUTERS ",
    "CONFETTI CONFLICT CONFOUNDED CONFUSED CONGRUENT CONICAL CONJUGATE CONJUNCTION CONSTANCY CONTEMPLATION ",
    "CONTENTION CONTINUATION CONTINUING CONTINUOUS CONTOURED CONTRACTION CONTRARIETY CONVENIENCE COOKED ",
    "COOKING COOL COP COPY COPYLEFT CORAL CORK CORNISH CORONIS CORPORATION CORPSE CORRECT CORRESPONDS ",
    "COT COUCH COUNTERBORE COUNTERSINK COUPLE COWBOY COX CRAB CRACKER CRAYON CREATIVE CRESCENDO CROCODILE ",
    "CROISSANT CROIX CRUCIFORM CRUTCH CRUZEIRO CRYSTAL CUAM CUCUMBER CUO CUOX CUPCAKE CUPIDO CUR CURLED ",
    "CURLING CURRY CURX CUSTARD CUSTOMER CUSTOMS CUX CWEORTH CYAW CYAY CYCLONE CYLINDRICITY CYPERUS CYR ",
    "CYRENAIC CYRX CYX D001 D002 D003 D004 D005 D006 D007 D008 D008A D009 D010 D011 D012 D013 D014 D015 ",
    "D016 D017 D018 D019 D020 D021 D022 D023 D024 D025 D026 D027 D027A D028 D029 D030 D031 D031A D032 ",
    "D033 D034 D034A D035 D036 D037 D038 D039 D040 D041 D042 D043 D044 D045 D046 D046A D047 D048 D048A ",
    "D049 D050 D050A D050B D050C D050D D050E D050F D050G D050H D050I D051 D052 D052A D053 D054 D054A D055 ",
    "D056 D057 D058 D059 D060 D061 D062 D063 D064 D065 D066 D067 D067A D067B D067C D067D D067E D067F D067G ",
    "D067H D2 DAADHU DAASU DAEG DAENG DAG3 DAGALGA DAGAZ DAGBASINNA DAGS DAH DAI DAING DAIR DALAT DAM ",
    "DAMARU DANCER DANCING DANGO DANTAYALAN DARA4 DARGA DART DASEIA DATA DAVID DAVIYANI DAWB DAX DD DDAP ",
    "DDAT DDAX DDEE DDEP DDEX DDHE DDHEE DDHI DDHU DDIE DDIEP DDIEX DDIP DDIT DDIX DDOA DDOP DDOT DDOX ",
    "DDUO DDUOP DDUOX DDUP DDURX DDUT DDUX DDWA DEAD DEAF DEBIT DECAYED DECEMBER DECIDUOUS DECISIVENESS ",
    "DECORATIVE DECRESCENDO DEEL DEEPLY DEFECTIVENESS DEFINITION DEHI DEK DEKA DELAYED DELETION DELICIOUS ",
    "DELIVERANCE DELIVERY DELPHIC DELT DENARIUS DENG DENNEN DEP DEPARTMENT DEPTH DERBITSA DERELICT DESI ",
    "DESIGN DESK DEUNG DEVELOPMENT DEX DEYTEROU DHAA DHAALU DHADHE DHAL DHALATH DHALETH DHAMEDH DHARMA ",
    "DHEE DHHA DHHE DHHEE DHHI DHHO DHHOO DHHU DHI DHII DHOO DHOU DHU DIAERESIZED DIAMETER DIARGON DIATONON ",
    "DIEP DIESEL DIEX DIFAT DIFFERENCE DIFFICULTIES DIFFICULTY DIFTOGGOS DIGITS DIGRAMMA DIL DIMENSION ",
    "DIMENSIONAL DIMIDIA DIMINISHMENT DIMMING DING DIP DIPLOUN DIPPER DIPTE DIRGA DISABLED DISCONTINUOUS ",
    "DISGUISED DISPERSION DISPUTED DISTILL DISTINGUISH DISTORTION DIT DITTO DIVERGENCE DIVIDERS DIVIDES ",
    "DIVING DIVORCE DIX DIYA DJ DL DLE DLEE DLHA DLHYA DLI DLO DLU DNA DOA DODO DOING DOIT DOKMAI DOLIUM ",
    "DOLPHIN DOMAIN DOONG DOP DOROME DORU DOUBT DOUGHNUT DOWNSCALING DOX DRAFTING DRIL DROMEDARY DROOLING ",
    "DROPS DRUMSTICKS DUB2 DUCK DUDA DUGUD DUH DUM DUMPLING DUN4 DUO DUOX DUP DUPONDIUS DUR DUR2 DURATION ",
    "DURX DUSHENNA DUSK DUT DUTIES DUX DVA DVD DVISVARA DVOECHELNOKRYZHEVAYA DVOETOCHIE DVUMYA DWA DWO ",
    "DYAN DZAA DZAY DZHOI DZITA DZYAY DZYI DZZA E001 E002 E003 E004 E005 E006 E007 E008 E008A E009 E009A ",
    "E010 E011 E012 E013 E014 E015 E016 E016A E017 E017A E018 E019 E020 E020A E021 E022 E023 E024 E025 ",
    "E026 E027 E028 E028A E029 E030 E031 E032 E033 E034 E034A E036 E037 E038 EABHADH EADHADH EAMHANCHOLL ",
    "EARLY EASE EBEFILI EDD EDIN EDITORIAL EEBEEFILI EEH EEKAA EEN EEYANNA EGGS EGIR EHWAZ EIGHTIETH EIS ",
    "EJECT EKAM EKARA EKS EKSTREPTON ELAFRON ELECTRICAL ELECTRONICS ELEVATOR ELEVATUS ELF ELIF ELT EMBELLISHMENT ",
    "EMBLEM EMBROIDERY EMPHATIC ENARMONIOS ENARXIS ENCOUNTERS ENDEAVOUR ENDED ENDEP ENDOFONON ENLARGEMENT ",
    "ENNI ENOS ENQUIRY ENTERING ENTHUSIASM ENUMERATION EOH EOLHX EPEGERMA EPOCH EQ EQUIANGULAR EQUID ERG ",
    "ERS ESH16 ESH21 ESO ESS ESTIMATED ESTIMATES ESUKUUDO ETHEL ETNAHTA EULER EUROPE EVENING EVERGREEN ",
    "EVERY EXCELLENT EXCESS EXCHANGE EXCITEMENT EXHALE EXHAUSTION EXIST EXISTS EXPLODING EXPONENT EXPRESSIONLESS ",
    "EXTINGUISHER EXTRATERRESTRIAL EYANNA EYBEYFILI EYEBROW EYEGLASSES EYYY F001 F001A F002 F003 F004 ",
    "F005 F006 F007 F008 F009 F010 F011 F012 F013 F013A F014 F015 F016 F017 F018 F019 F020 F021 F021A ",
    "F022 F023 F024 F025 F026 F027 F028 F029 F030 F031 F031A F032 F033 F034 F035 F036 F037 F037A F038 ",
    "F038A F039 F040 F041 F042 F043 F044 F045 F045A F046 F046A F047 F047A F048 F049 F050 F051 F051A F051B ",
    "F051C F052 F053 FAAFU FAAI FAAMAE FACINGS FACSIMILE FACTORY FAHRENHEIT FAIB FAIHU FAILURE FAIRY FAJ ",
    "FALAFEL FALLEN FAM FANG FAP FAQ FAR FAST FAT FATIGUE FAYANNA FEAR FEARFUL FEARN FEBRUARY FEEDING ",
    "FEEM FEENG FEHU FELLOWSHIP FENCER FEOH FERRIS FERRY FESTIVAL FETH FEUFEUAET FEUX FF FFI FFL FHTORA ",
    "FIGHT FII FILLED FINGERNAILS FINITE FIP FIRECRACKER FIREWORK FIREWORKS FIRI FISHEYE FISHING FISTED ",
    "FIT FIX FL FLA FLAGS FLAMINGO FLASH FLATNESS FLEUR FLEXED FLIGHT FLOWERS FLOWING FLUSHED FM FOG FOGGY ",
    "FOLDED FOLLY FON FONDUE FONGMAN FOOL FOOTPRINTS FOOTSTOOL FOP FORCE FORCES FORKING FORMATTING FORMS ",
    "FORTE FORTUNE FOSTERING FOURTHS FRAGMENT FRAGRANT FRAMES FRANC FREEZING FRICATIVE FRIED FRIES FUA ",
    "FUEL FUET FUJI FULLNESS FUNERAL FUP FURX FUSE FUT FUX FWE FY FYA FYP FYT FYX G001 G002 G003 G004 ",
    "G005 G006 G006A G007 G007A G007B G008 G009 G010 G011 G011A G012 G013 G014 G015 G016 G017 G018 G019 ",
    "G020 G020A G021 G022 G023 G024 G025 G026 G026A G027 G028 G029 G030 G031 G032 G033 G034 G035 G036 ",
    "G036A G037 G037A G038 G039 G040 G041 G042 G043 G043A G044 G045 G045A G046 G047 G048 G049 G050 G051 ",
    "G052 G053 G054 G2 GAAFU GADOL GAG GAI GALAM GAM GAMAN GAML GAMLA GANDA GANMA GAR3 GARDEN GARLIC GARMENT ",
    "GARON GASHAN GAT GAUNTLET GAX GB GBAKURUNEN GBAYI GBEN GBET GBEUX GBIEE GBON GCAN GDAN GE22 GEBA ",
    "GEBO GEDE GEDOLA GEEM GEM GEMINATE GEMINI GEN GENERIC GENIE GENITIVE GENTLE GEOMETRIC GER GERMAN ",
    "GET GETA GEX GG GGAA GGAP GGAT GGAX GGEE GGEP GGET GGEX GGIE GGIEP GGIEX GGIT GGIX GGOT GGOX GGUOP ",
    "GGUOT GGUOX GGUP GGUR GGURX GGUT GGUX GGWA GGWAA GGWE GGWEE GGWI GH GHAAMAE GHAINU GHAMAL GHAMMA ",
    "GHAP GHARAE GHAYN GHEE GHET GHEUAEGHEUAE GHEUAERAE GHEUGHEN GHEUGHEUAEM GHEUN GHEUX GHEYS GHI GHIMEL ",
    "GHOM GHOU GHU GHWA GHZ GIBA GIDIM GIE GIEP GIET GIEX GIFT GIG GIGA GINII GIP GIRAFFE GIRL GIRLS GIRUDAA ",
    "GISAL GIT GIX GLA GLASSES GLEICH GLOVE GLOVES GLOWING GN GNAVIYANI GOA GOBLIN GOGGLES GOING GOK GOLFER ",
    "GONG GOO GOOD GOP GORA GORGOSYNTHETON GORGOTERI GORILLA GORT GOX GPA GRADUAL GRADUATION GRAF GRAIN ",
    "GRAMMA GRAPES GRAPHEME GRATER GRAVEYARD GREATNESS GRIMACING GRONTHISMATA GROWING GUA GUAN GUARANI ",
    "GUARDEDNESS GUARDSMAN GUEI GUIDE GUITAR GUO GUOP GUOT GUOX GUP GURAMU GURAMUTON GURUN GURUSH GURX ",
    "GUT GUX GVANG GW GWAA GWU GY GYA GYAA GYAN GYE GYEE GYFU GYI GYO GYU H001 H002 H003 H004 H005 H006 ",
    "H006A H007 H008 HAAM HAARU HADES HAEGL HAFUKH HAFUKHA HAGL HAGLAZ HAI HAIRCUT HAIS HAITU HALBERD ",
    "HALO HALQA HAM HAMBURGER HAMSA HAMSTER HANDBAG HANDBALL HANDLES HANDSHAKE HANG HAO HAP HAPPY HARBAHAY ",
    "HARDNESS HARMONIC HASER HATCHING HATHI HAUPTSTIMME HAWJ HAX HAY HAYANNA HC HDR HEADING HEADPHONE ",
    "HEADSCARF HEAR HEARING HEAVENLY HEDGEHOG HEEI HEELED HEIGHT HEISEI HEKUTAARU HELICOPTER HELIX HELLSCHREIBER ",
    "HELM HEMP HEP HERAEUM HERB HERMES HERMITIAN HERUTU HEX HEXIFORM HEYT HHE HHEE HHI HHO HHU HHWE HHWEE ",
    "HHWI HHYA HHYAA HHYE HHYEE HHYI HHYO HHYU HIBISCUS HIDE HIDING HIEX HIKING HINDU HIPPOPOTAMUS HISTORIC ",
    "HIZB HK HL HLAP HLAT HLAU HLAX HLE HLEP HLEX HLIE HLIEP HLIEX HLIP HLIT HLIX HLO HLOP HLOX HLU HLUO ",
    "HLUOP HLUOX HLUP HLUR HLURX HLUT HLUX HLY HLYP HLYR HLYRX HLYT HLYX HM HMA HMAP HMAT HMAX HME HMI ",
    "HMIE HMIEP HMIEX HMIP HMIT HMIX HMOP HMOT HMOX HMU HMUO HMUOP HMUOX HMUP HMUR HMURX HMUT HMUX HMY ",
    "HMYP HMYR HMYRX HMYX HNAP HNAT HNAU HNAX HNE HNEP HNEX HNI HNIE HNIEP HNIET HNIEX HNIP HNIT HNIX ",
    "HNOP HNOT HNOX HNUB HNUO HNUOX HNUT HOA HOCHO HOI HOKA HOM HONEY HONEYBEE HOON HOOP HOORU HOOU HOP ",
    "HORIZONTALLY HOSPITAL HOTA HOX HOY HPA HPWG HRYVNIA HTTA HUAN HUARADDO HUB HUIITO HUK HUL2 HUNG HUO ",
    "HUOP HUOT HUOX HURAN HUSH HUSHED HUT HUVA HWA HWAH HWEE HWI HWO HWU HXA HXAP HXAT HXAX HXE HXEP HXEX ",
    "HXI HXIE HXIEP HXIET HXIEX HXIP HXIX HXO HXOT HXOX HXUOP HXUOT HXUOX HXWG HYGIEA HYGIEIA HYPODIASTOLE ",
    "HYSTERESIS HZG HZT HZW HZWG HZZ HZZP HZZZ HZZZG I001 I002 I003 I004 I005 I005A I006 I007 I008 I009 ",
    "I009A I010 I010A I011 I011A I012 I013 I014 I015 IANG IBIFILI ICELANDIC ICHADIN ICHOU ID IDLE IEP ",
    "IET IEX IF IFIN IGGWS IIYANNA IL2 ILIMMU3 ILIMMU4 ILUT ILUUYANNA ILUY ILUYANNA IMAALA IMIDIARGON ",
    "IMIFONON IMIFTHORA IMIFTHORON IMIN3 IMISEOS IMN IMP INAP INBOX INCH INCLUDING INCOMING INCOMPLETE ",
    "INCREASES INCREMENT INDIAN INDICTION INDIRECT INDUSTRIAL INFLUENCE INGWAZ INHALE ININGU INK INN INNN ",
    "INNOCENCE INSECT INTERCALATE INTEREST INTERLOCKED INTERSYLLABIC INTI INVERTEBRATE INY INYA IODHADH ",
    "IONG IOR IP IRB IRI IRUUYANNA IRUYANNA ISAKIA ISAZ ISHMAAM ISLAND ISS ITEM ITS IUJA IWAZ IWN IYANNA ",
    "IZ IZAKAYA JACKS JAH JAIN JALL JALLAJALALOUHOU JANUARY JAPAN JAVIYANI JAYIN JAYN JEANS JER JERA JERAN ",
    "JERUSALEM JEU JHAA JHAM JHAYIN JHO JHOX JIA JIE JIEP JIET JIEX JIGSAW JIP JIT JIX JJE JJEE JJIEP ",
    "JJIET JJIEX JJIP JJIT JJIX JJOP JJOT JJOX JJUO JJUOP JJUOX JJUP JJUR JJURX JJUX JJYP JJYT JJYX JOA ",
    "JOINTS JONG JOP JOVE JOX JOYOUS JOYSTICK JUDEO JUDGE JUDUL JUEUI JUGGLING JULY JUNE JUNO JUO JUOP ",
    "JUOT JUOX JUP JUPITER JUR JURX JUT JUU JUX JUZ JY JYP JYR JYRX JYT JYX K001 K002 K003 K004 K005 K006 ",
    "K007 K008 K2 KAAB KAABA KAACU KAAFU KAAI KAAN KAANKUU KAAV KACHKA KAD KAD4 KAFA KAIB KAIRI KAIV KAKABAT ",
    "KAM KAM2 KAM4 KANAKO KANGAROO KANTAJA KAPAL KAPO KAQ KAR KARA KARAN KARATTO KAROR KARORAN KARORII ",
    "KARSHANA KAT KATAVA KATAVASMA KATHISTI KAUB KAUN KAUNA KAUV KAV KAWB KAWI KAWV KAX KB KCAL KEAAE ",
    "KEB KEEB KEENG KEESU KEEV KEFULA KELVIN KEMBANG KEMPHRENG KENAT KEOW KEP KERET KES KEUAE KEUAEM KEUAERI ",
    "KEUAETMEUN KEUKAQ KEUKEUTNDA KEUOT KEUP KEUPUQ KEUSEUX KEUSHEUAEP KEUYEUX KEV KEX KHAB KHAF KHAMILO ",
    "KHAN KHANDA KHAV KHEE KHETH KHIT KHITAN KHOMUT KHON KHONNA KHOT KHOU KHU KHUAT KHUDAM KHWAI KHYUD ",
    "KHZ KIAB KIAV KIB KICK KIE KIEEM KIEP KIEX KIH KII KIIZH KILLER KIMONO KINDERGARTEN KINSHIP KIQ KIRO ",
    "KIROGURAMU KIROMEETORU KIROWATTO KISAL KISH KITE KIV KIW KIWIFRUIT KIX KKE KKEE KKI KKO KKU KL KLA ",
    "KLITON KLYUCHENEPOSTOYANNY KLYUCHEPOVODNAYA KLYUCHEPOVODNY KLYUCHEVOY KNEELING KNOBS KNOT KOA KOALA ",
    "KOB KOBYLA KOGHOM KOH KOINI KOKE KOKO KOMBU KOOB KOOMUUT KOOPO KOOV KOP KOQNDON KORON KORUNA KOT ",
    "KOUFISMA KOV KOVUU KOX KPAH KPAN KPARAQ KPEN KPEUX KPOQ KRA KRATIMATA KRATIMOKOUFISMA KRATIMOYPORROON ",
    "KREMASTI KRONOS KRYZHEVAYA KT KU7 KUA KUAB KUAV KUB KUET KUFISMA KUG KUNDDALIYA KUNG KUO KUOM KUOQ ",
    "KUOX KUP KUPNAYA KUQ KUROONE KURT KURUNI KURUZEIRO KURX KUSMA KUUH KUV KUX KUZHI KV KWAET KWAY KWB ",
    "KWM KWU318 KWV KXAA KXE KXEE KXI KXO KXU KXWA KXWAA KXWE KXWEE KXWI KYAA KYATHOS KYE KYI KYLISMA ",
    "KYO KYU KYURII L001 L002 L002A L003 L004 L005 L006 L006A L007 L008 L2 L3 L4 L6 LAAI LAAMU LAAN LAANAE ",
    "LAB LABAT LABEL LABIALIZATION LABOURING LACA LACK LACROSSE LADDER LADY LAEV LAGU LAGUS LAH LAHSHU ",
    "LAJANYALAN LAKHAN LAKKHANGYAO LAKUNA LAMADH LAMBDA LAMD LAND LANGUAGE LAPAQ LAQ LARI LARYNGEAL LAT ",
    "LATE LATIK LAU LAUGHING LAUJ LAUKAZ LAX LAY LAYAR LCI LD LD2 LDAN LEAD LEADING LEAFY LEDGER LEEK ",
    "LEGION LEGS LEI LEMOI LEMON LEO LEOPARD LEP LEUAEM LEUAEP LEUM LEVITATING LEX LHAG LHAVIYANI LHE ",
    "LHEE LHII LHOO LHU LHYA LIABILITY LIBERTY LIBRA LICKING LIEE LIEP LIET LIEX LIFE LIFTER LIGATING ",
    "LIGHTHOUSE LII LIL LILITH LILY LIMBS LIME LIMIT LIMITATION LIMITED LIMMU2 LIMMU4 LINGSA LINKED LINKING ",
    "LION LIPSTICK LIQ LIT LITRA LIVRE LIX LIZARD LLAMA LLE LLHA LLL LM LN LOA LOBSTER LOCATIVE LODESTONE ",
    "LOG LOGR LOLL LOLLIPOP LOMKA LOMMAE LOOK LOON LOP LORRAINE LORRY LOS LOSSLESS LOT LOTION LOUDLY LOUDSPEAKER ",
    "LOURE LOX LUAEP LUB LUHUR LUIS LUNGS LUNGSI LUO LUOP LUOT LUOX LUP LUR LURX LUS LUT LUX LX LYA LYGISMA ",
    "LYING LYIT LYP LYRX LYT LYX LYY M001A M001B M003A M010A M012A M012B M012C M012D M012E M012F M012G ",
    "M012H M015A M016A M017A M022A M024A M028A M031A M033A M033B M040A M045 M046 M047 M048 M049 M050 M051 ",
    "M052 M053 M054 M055 M056 M057 M058 M059 M060 M061 M062 M063 M064 M065 M066 M067 M068 M069 M070 M071 ",
    "M072 M073 M074 M075 M076 M077 M078 M079 M080 M081 M082 M083 M084 M085 M086 M087 M088 M089 M090 M091 ",
    "M092 M093 M094 M095 M096 M097 M098 M099 M100 M101 M102 M103 M104 M105 M106 M107 M108 M109 M110 M111 ",
    "M112 M113 M114 M115 M116 M117 M118 M119 M120 M121 M122 M123 M124 M125 M126 M127 M128 M129 M130 M131 ",
    "M132 M133 M134 M135 M136 M137 M138 M139 M140 M141 M142 M143 M144 M145 M146 M147 M148 M149 M150 M151 ",
    "M152 M153 M154 M155 M156 M157 M158 M159 M160 M161 M162 M163 M164 M165 M166 M167 M168 M169 M170 M171 ",
    "M172 M173 M174 M175 M176 M177 M178 M179 M180 M181 M182 M183 M184 M185 M186 M187 M188 M189 M190 M191 ",
    "M192 M193 M194 M195 M196 M197 MA2 MAAI MAAYYAA MADU MADYA MAEKEUP MAELEE MAEMBGBIEE MAEMGBIEE MAEMKPEN ",
    "MAEMVEUX MAENJET MAENYI MAGE MAGIC MAGNET MAHAPAKH MAHHA MAIDEN MAIKURO MAIL MAIMALAI MAIMUAN MAIRU ",
    "MAITAIKHU MAIYAMOK MAIZE MALEERI MALTESE MAMMOTH MANACLES MANAT MANGALAM MANGO MANNA MANNAZ MANS ",
    "MANSUAE MANSYON MANTELPIECE MANUAL MAO MAPLE MAQAF MARCASITE MARCH MARE MARKS MARRATAN MARRIAGE MARRYING ",
    "MARTIAL MARUKU MARWARI MARY MASCULINE MASHFAAT MASORA MASSAGE MASSING MASU MAT MATE MATERIALS MATRIX ",
    "MATTOCK MAU MAX MAXIMA MAXIMIZE MAYANNA MB2 MB3 MB4 MBAAKET MBAARAE MBAQ MBEEKEET MBERAE MBEURI MBEUX ",
    "MBIRIEEN MBUAE MBUAEM MBUE MBUO MBUOQ MBUU MD MED MEDICAL MEDICINE MEEMU MEETORU MEGALI MEGAPHONE ",
    "MEGATON MEIZI MELIK MELODIC MELTING MEMBERSHIP MEMO MENDUT MENOE MENORAH MENS MERI MERIDIANS MERPERSON ",
    "MESI MESSENIAN META METEG METEK METOBELUS METRETES METRIA METRO MEUNJOMNDEUQ MEUQ MEX MEZZO MFAA ",
    "MFEUAE MFEUQ MFEUT MFIEE MFIYAQ MFO MG MGA MGAP MGAT MGAX MGBASA MGBASAQ MGBE MGBEE MGBEN MGBEUN ",
    "MGBI MGBIEE MGBO MGBOFUM MGBOO MGBU MGE MGEP MGEX MGIE MGIEX MGOP MGOT MGOX MGU MGUO MGUOP MGUOX ",
    "MGUP MGUR MGURX MGUT MGUX MH MHZ MICRO MICROBE MICROSCOPE MIE MIEP MIEX MII MIIN MIKRI MIKRON MIKURON ",
    "MIL MILK MILKY MILL MILLET MIME MINIBUS MINIDISC MINIMIZE MINISTER MINY MIP MIRED MIRI MIRIBAARU ",
    "MISRA MIX MKPARAQ ML MNYAM MOA MODE MODEL MODELS MODEM MODERN MODESTY MODULO MOHAMMAD MOKHASSAS MOL ",
    "MONGKEUAEQ MONI MONOCLE MONORAIL MONOSTABLE MONSTER MONTIEEN MOOMEUT MOOMPUQ MOOSE MORNING MORPHOLOGICAL ",
    "MORTUUM MOSQUE MOSQUITO MOT MOTORCYCLE MOTORIZED MOTORWAY MOUNT MOUNTAINS MOVED MOVES MOVIE MOX MOYAI ",
    "MQ MR MRACHNO MRACHNOTIKHAYA MRACHNY MS MUAS MUE MUEN MUGS MUIN MUKHA MUKKURUNI MUKPHRENG MULTI MULTIOCULAR ",
    "MUM MUN MUNAH MUNSUB MUO MUOMAE MUOP MUOT MUOX MUP MUQDAM MUR MURE MURGU2 MURX MUS MUSHROOM MUT MUTHALIYA ",
    "MUUSIKATOAN MUUVUZHAKKU MUX MVEUAENGAM MVI MX MYP MYT MYX MZ N001 N002 N003 N004 N005 N006 N007 N008 ",
    "N009 N010 N011 N012 N013 N014 N015 N016 N017 N018 N018A N018B N019 N020 N021 N022 N023 N024 N025 ",
    "N025A N026 N027 N028 N029 N030 N031 N032 N033 N033A N034 N034A N035 N035A N036 N037 N037A N038 N039 ",
    "N040 N041 N042 NA4 NAAI NAAKSIKYAYA NAGAR NAIL NAIRA NAN NAND NANGMONTHO NANO NANSANAQ NAOS NAP NAU ",
    "NAUDIZ NAUSEATED NAUTHS NAX NAXIAN NAY NAZAR NBA NBAP NBAT NBAX NBI NBIEP NBIEX NBIP NBIT NBIX NBO ",
    "NBOP NBOT NBOX NBU NBUP NBUR NBURX NBUT NBUX NBY NBYP NBYR NBYRX NBYT NBYX NCA NCHAU ND NDAANGGEUAET ",
    "NDAT NDAX NDEP NDEUAEREE NDEUT NDEUX NDEX NDIAQ NDIDA NDIE NDIEX NDIP NDIQ NDIT NDIX NDOMBU NDON ",
    "NDOP NDOT NDOX NDUN NDUP NDUR NDURX NDUT NDUX NEBENSTIMME NECKTIE NEEDLE NEGATION NEL NEMKA NENANO ",
    "NEP NERD NESSUS NESTING NETWORKED NEUTER NEX NEXT NF NGAAI NGAH NGAI NGAN NGANGU NGAP NGAQ NGAT NGAX ",
    "NGEADAL NGEP NGEUREUT NGEX NGG NGGAA NGGAAMAE NGGAP NGGEEEE NGGEET NGGEU NGGEUAE NGGEUX NGGUA NGGUAEN ",
    "NGGUAESHAE NGGUEET NGGUM NGGUOM NGGUON NGGUP NGGURAE NGGWAEN NGIE NGIEP NGIEX NGII NGKAAMI NGKAP ",
    "NGKAQ NGKEUAEM NGKEUAEQ NGKEURI NGKEUX NGKIEE NGKINDI NGKUENZEUM NGKUM NGKUN NGKUP NGKYEE NGOO NGOQ ",
    "NGOT NGOX NGU NGUAE NGUAET NGUAN NGUE NGUN NGUO NGUOT NGUOX NGVE NGYE NH NHAY NHJA NHUE NI2 NIA NIE ",
    "NIEP NIEX NIGGAHITA NIGIDAESH NIGIDAMIN NIHSHVASA NIKA NIKAHIT NIKHAHIT NIN9 NINJA NINTH NION NIP ",
    "NIRUGU NISAG NISF NIT NITRE NIX NJAA NJAP NJAQ NJEEEE NJEUAEM NJEUAENA NJEUT NJIE NJIEE NJIEP NJIET ",
    "NJIEX NJIP NJIT NJIX NJOP NJOT NJOX NJUO NJUOX NJUP NJUQA NJUR NJURX NJUX NJY NJYP NJYR NJYRX NJYT ",
    "NJYX NKA NKAU NKINDI NKOM NL001 NL002 NL003 NL004 NL005 NL005A NL006 NL007 NL008 NL009 NL010 NL011 ",
    "NL012 NL013 NL014 NL015 NL016 NL017 NL017A NL018 NL019 NL020 NLAU NM NNAA NNE NNG NNGA NNGAA NNGI ",
    "NNGII NNGO NNGOO NNHA NNO NNYA NOA NOKHUK NOMINAL NOMISMA NONFORKING NOONU NOP NORDIC NORTHEAST NORTHWEST ",
    "NOTTO NOVEMBER NOVILE NOWC NOX NOY NPA NPLA NQA NQIG NRAP NRAT NRAX NRE NREP NRES NRET NREX NRO NROP ",
    "NROX NRU NRUA NRUP NRUR NRURX NRUT NRUX NRY NRYP NRYR NRYRX NRYT NRYX NS NSA NSEN NSEUAEN NSHAQ NSHEE ",
    "NSHUE NSHUET NSHUOP NSIEEP NSIEET NSOM NSUM NSUN NSUOT NTA NTEN NTEUNGBA NTHAU NTIEE NTOQPEN NTSA ",
    "NTSAU NTU NTUJ NTUM NTXA NTXIV NU001 NU002 NU003 NU004 NU005 NU006 NU007 NU008 NU009 NU010 NU010A ",
    "NU011 NU011A NU012 NU013 NU014 NU015 NU016 NU017 NU018 NU018A NU019 NU020 NU021 NU022 NU022A NUE ",
    "NUM NUMBERS NUMERO NUNAVUT NUO NUOP NUOX NUP NUR NURX NUSHU NUUN NUX NW NYAEMAE NYAH NYAJ NYAN NYCA ",
    "NYD NYEN NYIE NYIEP NYIET NYIEX NYIR NYIX NYJA NYOA NYON NYOO NYOT NYOX NYUE NYUN NYUO NYUOP NYUOX ",
    "NYUP NYUT NYUX NYWA NZAP NZAQ NZAT NZAX NZE NZEUM NZEX NZI NZIE NZIEP NZIEX NZIP NZIT NZIX NZOP NZOX ",
    "NZU NZUN NZUO NZUOX NZUQ NZUR NZURX NZUX NZY NZYP NZYR NZYRX NZYT NZYX O001 O001A O002 O003 O004 ",
    "O005 O005A O006 O006A O006B O006C O006D O006E O006F O007 O008 O009 O010 O010A O010B O010C O011 O012 ",
    "O013 O014 O015 O016 O017 O018 O019 O019A O020 O020A O021 O022 O023 O024 O024A O025 O025A O026 O027 ",
    "O028 O029 O029A O030 O030A O031 O032 O033 O033A O034 O035 O036 O036A O036B O036C O036D O037 O038 ",
    "O039 O040 O041 O042 O043 O044 O045 O046 O047 O048 O049 O050 O050A O050B O051 OABOAFILI OAK OB OBELOS ",
    "OBELUS OBJECT OBLACHKO OBLAKO OBOFILI OBOL OBSERVER OBSTRUCTION OC OCCLUSION OCHKOM OCTAGONAL OCTOBER ",
    "OCTOPUS ODEN OER OEY OFFICER OG OGRE OJEON OLE OMALON ONAP ONESELF ONION ONKAR ONSU OOBOOFILI OOH ",
    "OOMU OON OOYANNA OOZE OPHIUCHUS OPPOSE OPPRESSION OPTION ORANGUTAN ORCHID ORIGIN ORNAMENTS ORTHODOX ",
    "ORTHOGONAL OTHAL OTHALAN OTHER OTHERS OTSECHKA OTT OTTER OUNKIA OUTBOX OUTLINE OVERHEATED OWL OXEIAI ",
    "OYANNA OYSTER OZ P001 P001A P002 P003 P003A P004 P005 P006 P007 P008 P009 P010 P011 P2 PAAI PAARAE ",
    "PAARAM PAASENTO PAATU PACKAGE PACKING PADDLE PADMA PAGER PAGODA PAH PAINTBRUSH PAIRTHRA PAIYANNOI ",
    "PALATALIZATION PALATALIZED PALETTE PALKA PALLAS PALLAWA PALMS PALUTA PAMAAEH PAMENENG PAMEPET PAMINGKAL ",
    "PAMSHAE PAMUNGKAH PANAELAENG PANAM PANCAKES PANDA PANEULEUNG PANG PANGHULU PANGKAT PANGKON PANGLAYAR ",
    "PANGLONG PANGRANGKEP PANGWISAD PANOLONG PANONGONAN PANYAKRA PANYANGGA PANYECEK PANYIKU PANYUKU PAO ",
    "PAPERCLIP PAPERCLIPS PAPYRUS PARACHUTE PARAGRAPHUS PARAKLIT PAREREN PARICHON PARK PARROT PARTIALLY ",
    "PARUM PASEQ PASHAE PASHTA PASSED PASSENGER PASSIMBANG PASSPORT PASUQ PAT PATAK PATHAKKU PATHAMASAT ",
    "PAUK PAUSE PAVIYANI PAX PAY PAZER PC PD PEACH PEACOCK PEANUTS PEAR PEDESTRIANS PEEI PEEKING PEEM ",
    "PEEP PEESHI PEEZI PEITH PENETRATION PENGKAL PENGUIN PENIHI PENNY PENSIVE PENSU PENTATHLON PEORTH ",
    "PERFORMING PERMANENT PERSEVERING PERSPECTIVE PERTHO PES PESETA PET PETASMA PETASTI PETASTOKOUFISMA ",
    "PETRI PEUT PEUTAE PF PG PH PHAARKAA PHAB PHAM PHAN PHEE PHILOSOPHERS PHINTHU PHNAEK PHOA PHOLUS PHONES ",
    "PHRU PHU PHUNG PHUTHAO PHWA PIANO PIASTRE PIASUTORU PICKET PICKUP PIEEQ PIEET PIEP PIET PIEX PIKO ",
    "PIKURU PILE PILL PINARBORAS PINATA PINCHED PINCHING PINE PINEAPPLE PIPING PIR2 PIRACY PIRIEEN PISCES ",
    "PISTOL PIX PIZZA PIZZICATO PLACARD PLAK PLANET PLANT PLATE PLAYGROUND PLEADING PLETHRON PLHAU PLOW ",
    "PLUG PLUK PLUM PLUMED PLUNGER PLURAL PM POA POCKET PODATUS PODCHASHIEM PODVERTKA POETIC POINTO POINTS ",
    "POKRYTIE POLKULIZMY POLNAYA POLO POLUPOVODNAYA PONDO POODLE POON POPCORN POPPER POPPING PORTABLE ",
    "POSEIDON POSITIONS POSTBOX POSTPOSITION POTTED POUCH POULTRY POURING POVODNY POWDER POWDERED POX ",
    "POY PPA PPM PPV PR PRAYER PRECEDED PRECIPITATE PREFACE PRENKHA PRESCRIPTION PRESENT PRESSED PRETZEL ",
    "PREVIOUS PRINCE PRINCESS PRINTS PRIVATE PROBING PROFILE PROFOUND PROGRESS PROHIBITED PROJECTION PROJECTIVE ",
    "PROJECTOR PROOF PROPERTY PROPORTIONAL PROSERPINA PROTOVARYS PROVE PS PSIFISTOLYGISMA PSIFISTOPARAKALESMA ",
    "PSIFISTOSYNAGMA PSILON PTE PU2 PUAQ PUB PUBLIC PUCK PUFFED PUM PUMP PUNCTUS PUNG PUNGAAM PUO PUOP ",
    "PUOX PUQ PUR PURIFY PURITY PURNAMA PURSE PURX PUSHING PUSHPIKA PUTNAYA PUTREFACTION PUUT PUX PUZZLE ",
    "PV PW PWOY PY PYP PYR PYRX PYX PZ Q001 Q002 Q003 Q004 Q005 Q006 Q007 QAAFU QAAI QADMA QAIRTHRA QALA ",
    "QAPH QAQ QARNEY QAU QAY QEE QETANA QGA QHA QHAA QHAU QHE QHEE QHI QHO QHOPH QHU QHWA QHWAA QHWE QHWEE ",
    "QHWI QIE QIEP QIET QIEX QIF QIP QIT QIX QN QOA QOP QOPA QOX QP QUADCOLON QUANTITY QUATERNION QUBUTS ",
    "QUDDISA QUESTIONED QUF QUICK QUINARIUS QUINCUNX QUINTESSENCE QUINTILE QUK QUOP QUOT QUOX QUP QUR ",
    "QURX QUSHSHAYA QUT QUUV QUX QWA QWAA QY QYA QYAA QYE QYEE QYI QYO QYP QYR QYRX QYT QYU QYX R001 R002 ",
    "R002A R003 R003A R003B R004 R005 R006 R007 R008 R009 R010 R010A R011 R012 R013 R014 R015 R016 R016A ",
    "R017 R018 R019 R020 R021 R022 R023 R024 R025 R026 R027 R028 R029 RA2 RA3 RAAI RAB RACCOON RADIOACTIVE ",
    "RAEM RAH RAHEEM RAHIMAHU RAHIMAHUM RAHMAN RAHMATULLAH RAI RAIDA RAIDO RAIL RAINBOW RAKHANG RAMBAT ",
    "RAN RAPISMA RAQ RASHA RASOUL RASWADI RATA RATIO RAU RAVNO RAX RAYANNA RAZOR RAZSEKA REAHMUK RECEIPT ",
    "RECEPTIVE RECITATIVE RECORDER RECORDING RECREATIONAL REFERENCE REGISTERED REI REID REIWA RELAA RELATIONAL ",
    "RELEASE RELIGION REMEDY REMINDER REMU RENTOGEN REP REPH REPHA REPRESENT REREKAN RES RESIDENCE RESISTANCE ",
    "RESOLUTION RESTROOM RESUPINUS RETORT RETREAT REU REVIA REVMA REVOLUTION RH RHINOCEROS RHOTIC RIAL ",
    "RICEM RICKSHAW RIEL RIFLE RIGHTHAND RIGVEDIC RIM RIMGBA RIN RINFORZANDO RINGED RINGING RIP RIRA RITTORU ",
    "RITUAL RIVER RJES RMT RO2 ROA ROAR ROASTED ROBAT ROBOT ROGOM ROLL ROLLED ROM ROOF ROOM ROOSTER ROP ",
    "ROSE ROSH ROT ROWBOAT ROX RRAX RREP RRET RREX RROP RROT RROX RRRA RRU RRUO RRUOX RRUP RRUR RRURX ",
    "RRUT RRUX RRY RRYP RRYR RRYRX RRYT RRYX RTE RTHANG RUA RUBLE RUE RUGBY RUIS RUKKAKHA RULAI RUN RUNNER ",
    "RUNOUT RUO RUOP RUOX RUP RUPII RUR RURX RUSI RUT RUUBURU RUX RWAHA RWE RWEE RWI RWII RWO RWOO RYA ",
    "RYP RYR RYRX RYT RYX RYY S001 S002 S002A S003 S004 S005 S006 S006A S007 S008 S009 S010 S011 S012 ",
    "S013 S014 S014A S014B S015 S016 S017 S017A S018 S019 S020 S021 S022 S023 S024 S025 S026 S026A S026B ",
    "S027 S028 S029 S030 S031 S032 S033 S034 S035 S035A S036 S037 S038 S039 S040 S041 S042 S043 S044 S045 ",
    "S046 SAADHU SAAI SACRIFICIAL SAGA SAGITTARIUS SAIKURU SAIL SAILBOAT SAJDA SAJDAH SAKE SAKEUAE SAKHA ",
    "SAKIN SAKOT SAKTA SALA SALAAMUHU SALAATU SALAD SALAM SALLALLAAHU SALLALLAHU SALLAM SALUTING SAMKA ",
    "SAMPHAO SAMVAT SAMYOK SANAH SAND SANDWICH SANGA2 SANNYA SANTIIMU SANYOOGA SAPA SAQ SASH SATCHEL SATKAAN ",
    "SATKAANKUU SATURN SAUCER SAUIL SAUROPOD SAVOURING SAWAN SAX SAXIMATA SAXOPHONE SBRUL SBUB SCALES ",
    "SCARF SCEPTER SCHOLAR SCHROEDER SCORE SCORPION SCORPIUS SCREAMING SCREWDRIVER SCROLL SCRUPLE SCWA ",
    "SD SDONG SEAGULL SEAT SECRET SECTOR SEDNA SEEDLING SEENU SEEV SELENA SELFIE SEMISEXTILE SEMK SEMUNCIA ",
    "SENTAGON SENTI SENTO SEP SEPARATED SEPTEMBER SEPTUPLE SERIOUS SERVICE SESQUIQUADRATE SESTERTIUS SETFON ",
    "SEUAEQ SEUNYAM SEVENTH SEVERANCE SEWING SEX SEXTANS SEXTILE SEYK SG SGOR SGRA SH2 SHAB6 SHAK SHAKER ",
    "SHAKTI SHALLOW SHALSHELET SHAMROCK SHANKED SHAP SHAPE SHARA SHARK SHAVED SHAVIYANI SHAX SHAY SHCHOOI ",
    "SHEENU SHEG9 SHEN SHEP SHEQEL SHESH2 SHESHLAM SHEUAE SHEUAEQ SHEUAEQTU SHEUOQ SHEVA SHEX SHIIN SHINDA ",
    "SHINIG SHINTO SHIRAE SHIYYAALAA SHOA SHOCKED SHOES SHOOI SHOOT SHOOTING SHORTCAKE SHORTENER SHOT ",
    "SHOU SHOULDERED SHOWER SHOX SHRA SHRAA SHRII SHRINE SHRO SHROO SHRUG SHUANGXI SHUBUR SHUENSHUET SHUEQ ",
    "SHUFFLE SHUL SHUM SHUO SHUOP SHUOX SHUP SHURX SHUT SHUTTLECOCK SHUX SHV SHWOY SHYA SHYE SHYP SHYR ",
    "SHYRX SHYT SHYX SIA SICKLE SICKNESS SIDDHI SIE SIEE SIEP SIEX SIGEL SIKI SILIQUA SILVER SINE SINGAAT ",
    "SINKING SINOLOGICAL SINUSOID SIP SIRINGU SIRRAH SISA SIT SITE SK SKATEBOARD SKIER SKIN SKOBA SKUNK ",
    "SKW SKWA SLAVE SLAVONIC SLED SLEEP SLEEPY SLEUTH SLIDE SLIDER SLIDING SLING SLOPE SLOT SLOTH SLOWLY ",
    "SMEAR SMIRKING SNA SNAIL SNAP SNEEZING SNOWBOARDER SOA SOCCER SOCKS SOFTBALL SOFTNESS SOFTWARE SON ",
    "SONG SONJAM SOON SOP SOQ SORI SOS SOUNAP SOW SOWILO SOX SOY SP SPA SPAGHETTI SPANISH SPARKLER SPARKLES ",
    "SPARKLING SPATHI SPE SPEAK SPEAKING SPEEDBOAT SPENT SPESMILO SPI SPICE SPINE SPIRANT SPLASHING SPLITTING ",
    "SPO SPONGE SPOOL SPORTS SPOT SPOUTING SPRECHGESANG SPRING SPRINGS SPROUT SPUNGS SPWA SPY SQUEEZED ",
    "SQUID SQUISH SR SSAA SSANGARAEA SSANGMIEUM SSANGTHIEUTH SSANGYEORINHIEUH SSAP SSAT SSAX SSEE SSEP ",
    "SSEX SSHE SSHIN SSIE SSIEP SSIEX SSIP SSIT SSIX SSOP SSOT SSOX SSUP SSUT SSUX SSY SSYP SSYR SSYRX ",
    "SSYT SSYX ST2 STACCATISSIMO STACKED STADIUM STAGE STALLION STAN STAND STANDING STANDSTILL STARK STARRED ",
    "STARS STARTING STATION STATUE STAUROS STAVROU STEAMING STEAMY STENOGRAPHIC STEREO STETHOSCOPE STILL ",
    "STIMME STIRRUP STOPPAGE STOPPING STOPWATCH STOVE STRAGGISMATA STRAIF STRAIGHTNESS STRAINER STRATIAN ",
    "STRAW STRAWBERRY STREAMER STRENGTH STRETCH STRICTLY STRIDE STRIKETHROUGH STRIPE STUDIO STUFFED STUPA ",
    "STWA SUAB SUAE SUAEN SUAET SUAM SUBHAANAHU SUBITO SUBJECT SUBLIMATION SUBPUNCTIS SUCK SUCKING SUD ",
    "SUD2 SUITABLE SUMASH SUMMER SUNFLOWER SUNSET SUO SUOP SUOX SUP SUPERFIXED SUPERHERO SUPERIMPOSED ",
    "SUPERVILLAIN SUR9 SURE SURFER SURX SURYA SUSHI SUT SUTRA SUX SVETLO SVETLY SWAN SWG SWIMMER SWIMMING ",
    "SWIMSUIT SWORD SWORDS SWUNG SWZ SY SYA SYI SYMMETRY SYNAFI SYNAGOGUE SYNCHRONOUS SYNDESMOS SYNEVMA ",
    "SYOUWA SYP SYR SYRINGE SYRMA SYRMATIKI SYRX SYT SYX SZ SZA SZAA SZE SZEE SZI SZO SZU SZWA SZWG SZZ ",
    "T001 T002 T003 T003A T004 T005 T006 T007 T007A T008 T008A T009 T009A T010 T011 T011A T012 T013 T014 ",
    "T015 T016 T016A T017 T018 T019 T020 T021 T022 T023 T024 T025 T026 T027 T028 T029 T030 T031 T032 T032A ",
    "T033 T033A T034 T035 T036 TA2 TAAF TAAI TAAM TAAQ TAASHAE TABAARAKA TABS TACO TAEN TAHALA TAILLESS ",
    "TAISYOU TAK TAKE TAKEOUT TAKHALLUS TALENT TAMALE TAMAN TANA TANABATA TANG TANGERINE TAO TAP TAPER ",
    "TAQ TARUNG TAS TASHEEL TASSI TATTOOED TAUM TAURUS TAVIYANI TAWA TAWELLEMET TAX TAY TEA TEACUP TEAPOT ",
    "TEDDY TEEEE TEENS TEGEH TEIWS TEK TELESCOPE TELEVISION TELLER TELU TEMPLE TENGE TENUTO TEP TERMINATOR ",
    "TESSARON TEST TETRAFONIAS TETRAPLI TEU TEUN TEUT TEUTEUWEN TEUTEUX TEVIR TEX THAALU THAHAN THAJ THALATHA ",
    "THAMEDH THANNA THANTHAKHAT THAW THEA THEREFORE THERMODYNAMIC THES THETH THEY THIAB THICK THIGH THING ",
    "THINKING THITA THIUTH THOA THOJ THOM THOU THROWING THUNDERSTORM THUNG THURISAZ THURS THWE THWEE THWI ",
    "THWII THWO THWOO THYOOM THZ TI2 TIARA TICKET TICKETS TIEP TIEX TII TILES TILT TIMER TIN TINAGMA TINCTURE ",
    "TING TINNE TIPEHA TIPPED TIPPI TIRED TIRTA TIRYAK TITUAEP TIWAZ TIWR TIX TLEE TLHEE TLHOO TLHU TLHWE ",
    "TLHYA TN TOA TOANDAKHIAT TOCHKA TOILET TOKYO TOLONG TOMATO TOMPI TON TONG TOOLBOX TOON TOOTHBRUSH ",
    "TORCH TORNADO TOS TOUCHES TOURNOIS TOV TOWER TOX TR TRACKBALL TRACTOR TRADE TRAILING TRAMWAY TRANSPLUTO ",
    "TRANSVERSAL TRAP TRAPEZIUM TREADING TREDECILE TRESVETLO TRESVETLY TRI TRIA TRIFOLIATE TRIFONIAS TRIGORGON ",
    "TRIISAP TRILL TRILLIONS TRION TRIPLI TRIPOD TRITOS TRIUMPH TROLL TROLLEY TROLLEYBUS TROMIKOLYGISMA ",
    "TROMIKOPARAKALESMA TROMIKOPSIFISTON TROMIKOSYNAGMA TROPHY TRUMPET TRUNCATED TRUTH TRYASKA TRYASOGLASNAYA ",
    "TRYASOPOVODNAYA TRYASOSTRELNAYA TRYBLION TSAA TSAADIY TSAB TSEEB TSERE TSHAB TSHEEJ TSHOOJ TSHUGS ",
    "TSIU TSOV TSSA TSWA TSWB TT2 TTEE TTH TTHEE TTHOO TTHU TTHWE TTSA TTSE TTSEE TTSI TTSO TTSU TTTHA ",
    "TTU TTUDDAG TUAE TUAEP TUB TUBE TUGRIK TUKWENTIS TULIP TUMAE TUMBLER TUMETES TUNNY TUO TUOP TUOX ",
    "TUPNI TURKEY TURKISH TURO2 TURU TURX TUT TUTEYASAT TUTTY TUUMU TUX TUXEDO TVIMADUR TWELFTH TWISTED ",
    "TWISTING TXA TXHEEJ TYA TYAY TYE TYI TYO TZA TZAA TZE TZEE TZI TZIR TZO TZOA TZU U001 U002 U003 U004 ",
    "U005 U006 U006A U006B U007 U008 U009 U010 U011 U012 U013 U014 U015 U016 U017 U018 U019 U020 U021 ",
    "U022 U023 U023A U024 U025 U026 U027 U028 U029 U029A U030 U031 U032 U032A U033 U034 U035 U036 U037 ",
    "U038 U039 U040 U041 U042 UAN UANG UATH UBHAYATO UBUFILI UDAAT UDARKA UDUG UEA UEC UEE UEI UEN UEQ ",
    "UEY UHD UIC UILLEANN UIQ UIUC UIUQ UIUX UIUZ UIX UIZ UMBIN UNA UNAMUSED UNAP UNASPIRATED UNBLENDED ",
    "UNCERTAINTY UNCIA UNDERDOT UNDO UNEVEN UNG UNICORN UNIFORM UNITED UNITY UNKNOWN UNMARRIED UOG UON ",
    "UOP UOX UPRIGHT UPSIDE UQ UR4 URA URI URI3 URINE URN URUS URUZ USE USH2 USHENNA USHUMX USHX USSU ",
    "USSU3 UTUKI UUU UUU2 UUU3 UUUU UUYANNA UWU UX UYANNA UZ UZHAKKU UZU V001 V001A V001B V001C V001D ",
    "V001E V001F V001G V001H V001I V002 V002A V003 V004 V005 V006 V007 V007A V007B V008 V009 V010 V011 ",
    "V011A V011B V011C V012 V012A V012B V013 V014 V015 V016 V017 V018 V019 V020 V020A V020B V020C V020D ",
    "V020E V020F V020G V020H V020I V020J V020K V020L V021 V022 V023 V023A V024 V025 V026 V027 V028 V028A ",
    "V029 V029A V030 V030A V031 V031A V032 V033 V033A V034 V035 V036 V037 V037A V038 V039 V040 V040A VAAVU ",
    "VAJ VAKAIYARAA VALLEY VAMPIRE VAP VAPOURS VARAAKAN VAREIAI VARIKA VARYS VASIS VASTNESS VAT VATHY ",
    "VAU VAX VAYANNA VC VECTOR VEHICLE VEIL VELI VER VERDIGRIS VERGE VERSICLE VEST VESTA VEUAE VEUAEPEN ",
    "VEUM VEUX VEX VEYZ VFA VHA VIBRATION VIDEOCASSETTE VIE VIEP VIEWDATA VIEWER VIEWING VIEX VIGINTILE ",
    "VILLAGE VIOLIN VIP VIRGA VIRGO VIRIAM VISARGAYA VIT VIX VOCALIZATION VOD VOICELESS VOID VOIDED VOLCANO ",
    "VOLLEYBALL VOLTAGE VOLUME VOM VOMITING VOOI VOP VOT VOW VOX VQ VS VUEQ VULCANUS VUP VURX VUT VUX ",
    "VW VWA VWJ VX VYP VYR VYRX VYT VYX VZ VZMET W001 W002 W003 W003A W004 W005 W006 W007 W008 W009 W009A ",
    "W010 W010A W011 W012 W013 W014 W014A W015 W016 W017 W017A W018 W018A W019 W020 W021 W022 W023 W024 ",
    "W024A W025 WAAALIHEE WAAJIB WAAVU WADDA WAEN WAFFLE WAI WAIST WAN WAND WANDERER WANGKUOQ WAQFA WARNING ",
    "WAS WASSALLAM WASTEBASKET WASTING WAT WATERMELON WATTO WB WEAPON WEB WEDDING WEEN WELL WEN WEP WET ",
    "WEUX WEX WG WH WHEELED WIANG WIANGWAAK WIDENING WIGGLES WIGNYAN WILTED WIN WINGS WINJA WINK WINTER ",
    "WIRED WOA WOE WOLF WOMEN WOMENS WOON WOP WORDSPACE WORKER WORLD WORM WORRIED WORSHIP WOW WOX WRAP ",
    "WRAPPED WREATH WRESTLERS WRONG WRY WUAEN WUAET WUI WUN WUNJO WUOP WUOX WUP WVA WVE WVI WZ X001 X002 ",
    "X003 X004 X004A X004B X005 X006 X006A X007 X008 X008A XAA XAPH XAU XAUS XEE XESTES XEYN XG XHEYN ",
    "XIAB XIE XIEP XIET XIEX XIP XIRON XIT XIX XOA XOP XOPH XOR XOT XOX XSHAAYATHIYA XU XUO XUOX XVE XWA ",
    "XWAA XWE XWEE XWI XY XYAA XYEE XYI XYO XYOO XYOOJ XYP XYR XYRX XYT XYU XYX Y001 Y001A Y002 Y003 Y004 ",
    "Y005 Y006 Y007 Y008 YAADO YAAI YAARU YAB YABH YACH YAD YADD YADDH YADH YAEMMAE YAF YAFU YAG YAGHH ",
    "YAGN YAHH YAKASH YAKHH YAL YAMAKKAN YAMOK YARN YARR YAS YASH YASS YATH YATT YAU YAV YAW YAWNING YAYANNA ",
    "YAYD YAZZ YEA YEEG YEIN YENAP YERAH YETIV YEUAE YEUAET YEUM YEUQ YEURAE YEUX YEW YEY YHA YIEE YIEP ",
    "YIET YIEX YIH YII YING YIP YIX YIZET YOA YOMO YOP YORI YOU YOUTHFUL YOUTHFULNESS YOWD YOX YOY YPORROI ",
    "YPSILI YRY YUAEN YUAN YUE YUEQ YUI YUN YUO YUOM YUOT YUOX YUP YUR YURX YUUKALEAPINTU YUX YYAA YYE ",
    "YYP YYR YYRX YYT YYX Z001 Z002 Z002A Z002B Z002C Z002D Z003 Z003A Z003B Z004 Z004A Z005 Z005A Z006 ",
    "Z007 Z008 Z009 Z010 Z011 Z012 Z013 Z014 Z015 Z015A Z015B Z015C Z015D Z015E Z015F Z015G Z015H Z015I ",
    "Z016 Z016A Z016B Z016C Z016D Z016E Z016F Z016G Z016H ZAEF ZAG ZAI ZAKRYTOE ZAMX ZANOZHEK ZAP ZAPYATYMI ",
    "ZARL ZARQA ZAT ZAVIYANI ZAX ZE2 ZEBRA ZELO ZEP ZEUS ZEVOK ZEX ZH ZHAA ZHAIN ZHAP ZHAT ZHAX ZHAYIN ",
    "ZHEP ZHET ZHEX ZHIL ZHOI ZHOO ZHOP ZHOT ZHOX ZHUO ZHUOP ZHUOX ZHUP ZHUR ZHURX ZHUT ZHUX ZHWA ZHY ",
    "ZHYP ZHYR ZHYRX ZHYT ZHYX ZI3 ZIE ZIEP ZIEX ZIG ZILDE ZINOR ZIP ZIPPER ZIQAA ZIT ZIX ZMEYTSA ZOA ",
    "ZOMBIE ZOP ZOX ZRA ZSA ZSHA ZUBUR ZUM ZUO ZUOP ZUOX ZURX ZUT ZUX ZWA ZWARAKAY ZWJ ZYGOS ZYP ZYR ZYRX ",
    "ZYT ZYX ZZAA ZZAP ZZAT ZZAX ZZEE ZZEP ZZEX ZZIE ZZIEP ZZIEX ZZIP ZZIT ZZIX ZZOP ZZOX ZZSA ZZSYA ZZUP ",
    "ZZUR ZZURX ZZUX ZZY ZZYA ZZYP ZZYR ZZYRX ZZYT ZZYX "]

/-- The names of the code points in `namedRanges`, in order, each as its word numbers and
joins, separated by `|`. -/
def nameCodes : String :=
  String.join [
    "#Y|!nj|z(j|V1|+Z1|?*1|*1|)E|cy8|Zy8|y4|ts1|x0|$(-!c|xhwJ|#4|EvV|Et0|Et3|EtC|EtQ|EtX|Et=|EuB|Et?|",
    "EuF|zY|&v|x1-uX1|z21|w=-uX1|!6j|=k!U|750F|750t4|750tb|750tV|750f|750uV|750u[|750vB|750t6|750vt|7",
    "50v3|750t+|750uz|750u5|750t1|750vQ|750x6|750tu|750tt|750u]|750n|750v5|750v(|750vj|750u?|750vR|cl",
    "uG|#i#4|ZluG|v.wf|t_vL|wCwf|730F|730t4|730tb|730tV|730f|730uV|730u[|730vB|730t6|730vt|730v3|730t",
    "+|730uz|730u5|730t1|730vQ|730x6|730tu|730tt|730u]|730n|730v5|730v(|730vj|730u?|730vR|cz1uG|tJvL|",
    "Zz1uG|u(|xo-@5!#Y|wu!nj|@Iu1|@3a1|&]1|@0m1|.eu0|y*1|w7|@J31|@Kt@QVzR|c-t[iv+z(j|wx1|%#$(|[Ot1|wH",
    "|@1d1|ts-!c1|!St3|!StC|v6wf|[9z1|@R01|tRtA|z:|!St0|[8U@QVzR|Z-t[iv+z(j|$BvAt0yr|$BvAt0t(|$BvAtC%",
    "R|wu!6j|750F2wC|750F2v6|750F2v.|750F2u(|750F2w7|750F2ukg|750z0|750tb2z:|750f2wC|750f2v6|750f2v.|",
    "750f2w7|750t62wC|750t62v6|750t62v.|750t62w7|750*P|750u52u(|750t12wC|750t12v6|750t12v.|750t12u(|7",
    "50t12w7|&A1|750t12tM|750n2wC|750n2v6|750n2v.|750n2w7|750u?2v6|750+2|730+@tt|730F2wC|730F2v6|730F",
    "2v.|730F2u(|730F2w7|730F2ukg|730z0|730tb2z:|730f2wC|730f2v6|730f2v.|730f2w7|730t62wC|730t62v6|73",
    "0t62v.|730t62w7|730*P|730u52u(|730t12wC|730t12v6|730t12v.|730t12u(|730t12w7|*J1|730t12tM|730n2wC",
    "|730n2v6|730n2v.|730n2w7|730u?2v6|730+2|730u?2w7|750F2wH|730F2wH|750F2xA|730F2xA|750F2%P|730F2%P",
    "|750tb2v6|730tb2v6|750tb2v.|730tb2v.|750tb2tAg|730tb2tAg|750tb2yE|730tb2yE|750tV2yE|730tV2yE|750",
    "tV2tM|730tV2tM|750f2wH|730f2wH|750f2xA|730f2xA|750f2tAg|730f2tAg|750f2%P|730f2%P|750f2yE|730f2yE",
    "|750u[2v.|730u[2v.|750u[2xA|730u[2xA|750u[2tAg|730u[2tAg|750u[2z:|730u[2z:|750vB2v.|730vB2v.|750",
    "vB2tM|730vB2tM|750t62u(|730t62u(|750t62wH|730t62wH|750t62xA|730t62xA|750t62%P|730t62%P|750t62tAg",
    "|730#et6|75Y@MI|73Y@MI|750vt2v.|730vt2v.|750v32z:|730v32z:|730[2i|750t+2v6|730t+2v6|750t+2z:|730",
    "t+2z:|750t+2yE|730t+2yE|750t+2tRtA|730t+2tRtA|750t+2tM|730t+2tM|750u52v6|730u52v6|750u52z:|730u5",
    "2z:|750u52yE|730u52yE|730u5[L#&V)E|750&b|730&b|750t12wH|730t12wH|750t12xA|730t12xA|750t12iv6|730",
    "t12iv6|75YyM|73YyM|750tu2v6|730tu2v6|750tu2z:|730tu2z:|750tu2yE|730tu2yE|750tt2v6|730tt2v6|750tt",
    "2v.|730tt2v.|750tt2z:|730tt2z:|750tt2yE|730tt2yE|750u]2z:|730u]2z:|750u]2yE|730u]2yE|750u]2tM|73",
    "0u]2tM|750n2u(|730n2u(|750n2wH|730n2wH|750n2xA|730n2xA|750n2ukg|730n2ukg|750n2iv6|730n2iv6|750n2",
    "%P|730n2%P|750v(2v.|730v(2v.|750u?2v.|730u?2v.|750u?2w7|750vR2v6|730vR2v6|750vR2tAg|730vR2tAg|75",
    "0vR2yE|730vR2yE|730ugtt|730t42tM|750t42tW|750t42@4L|730t42@4L|750tit=|730tit=|750ujt1|750tb2tW|7",
    "30tb2tW|750=NtV|750tV2tW|750tV2@4L|730tV2@4L|730ul#v|750vcf|750&t|750ujf|750uV2tW|730uV2tW|750u[",
    "2tW|750#O|730@2G|750xW|750t62tM|750v32tW|730v32tW|730t+2u0|730[3#2tM|750uluz|750u52ctW|730u52ugZ",
    "#z|750t12tRu(|750t12zJ|730t12zJ|750?w|730?w|750vQ2tW|730vQ2tW|70@0p|750tit3|730tit3|750$2|70vc$2",
    "!Z|730u]2!3tW|750u]2tW|730u]2tW|750u]2yatW|750n2zJ|730n2zJ|750x=|750v52tW|750u?2tW|730u?2tW|750v",
    "R2tM|730vR2tM|750&c|750&cvc|730&cvc|730&c2wK|70t32tM|750titX|730titX|70wuz9wJ2tM|70@4j|70@6e&@|7",
    "0@NW&@|70@HG&@|70ya&@|750(r2yE|750tV230vR2yE|730(r2yE|750@Ny|750t+230vt|730@Ny|750@Pu|750u5230vt",
    "|730@Pu|750F2yE|730F2yE|750t62yE|730t62yE|750t12yE|730t12yE|750n2yE|730n2yE|750n2w7PwH|730n2w7Pw",
    "H|750n2w7Pv6|730n2w7Pv6|750n2w7PyE|730n2w7PyE|750n2w7PwC|730n2w7PwC|730ulf|750F2w7PwH|730F2w7PwH",
    "|750F2tAgPwH|730F2tAgPwH|750z02wH|730z02wH|750u[2tM|730u[2tM|750u[2yE|730u[2yE|750v32yE|730v32yE",
    "|750t12%P|730t12%P|750t12%PPwH|730t12%PPwH|750&c2yE|730&c2yE|730vt2yE|750(r|750tV230vR|730(r|750",
    "u[2v6|730u[2v6|750@M6|750@4j|750u52wC|730u52wC|750F2ukgPv6|730F2ukgPv6|750z02v6|730z02v6|750t12t",
    "MPv6|730t12tMPv6|750F2iwC|730F2iwC|750F2wuxA|730F2wuxA|750f2iwC|730f2iwC|750f2wuxA|730f2wuxA|750",
    "t62iwC|730t62iwC|750t62wuxA|730t62wuxA|750t12iwC|730t12iwC|750t12wuxA|730t12wuxA|750tu2iwC|730tu",
    "2iwC|750tu2wuxA|730tu2wuxA|750n2iwC|730n2iwC|750n2wuxA|730n2wuxA|750tt2x0t9|730tt2x0t9|750u]2x0t",
    "9|730u]2x0t9|750@V%|730@V%|750vB2yE|730vB2yE|750u52ugZ#z|730tV2#L|750*v|730*v|750vR2tW|730vR2tW|",
    "750F2tAg|730F2tAg|750f2z:|730f2z:|750t12w7PwH|730t12w7PwH|750t12u(PwH|730t12u(PwH|750t12tAg|730t",
    "12tAg|750t12tAgPwH|730t12tAgPwH|750u?2wH|730u?2wH|730t+2#L|730u52#L|730u]2#L|730#evt|730@JWzl|73",
    "0[NKzl|750F2tM|750tb2tM|730tb2tM|750t+2u0|750u]2uftM|730tt2:.wK|730vR2:.wK|750z9wJ|730z9wJ|750t4",
    "2tM|750nu0|750ulv5|750f2tM|730f2tM|750vt2tM|730vt2tM|7503x62tWwK|730x62tWwK|750tu2tM|730tu2tM|75",
    "0u?2tM|730u?2tM|730ulF|730wS|730ulwS|730t42tW|730ujt1|730tb2#L|730tV2wK|730tV2tW|730vcf|730&t|73",
    "0&t2tW|730ujf|730vcujf|730vcujf2tW|730y5vcujf|730#evt2tM|730u[2tW|730uhu[|7035u[|730#O|730@RtzJ|",
    "730ulvB|730vB2tW|730?42tW|730t62tM|730xW|7035t6|730t+2tRu(|730t+2&:|730t+2yatW|730@2t|730uluz|73",
    "0uluz2ug#z|730uz2tW|730u52ctW|730u52yatW|7035u5|730$!t1|7035yM|730y5wO|730!.|730ultu|730ultu2ug#",
    "z|730ultu2tW|730tu2ug#z|730tu2wK|730tu2*R|730vctu2*R|7035tu|7035wutu|730tt2tW|730$2|730#evt2tMPt",
    "W|730@TXvc$2|730$22#L|730ulu]|730u]2yatW|730nu0|730x=|730v52tW|730ulv5|730ulv(|730ulu?|7035u?|73",
    "0vR2yatW|730vR2#L|730&c|730&c2#L|70z9wJ|70*!&N@.O|70wuz9wJ|70!=tb|70@5v&@|7035t4|730y5ujf|7035u[",
    "2tW|7035vB|730vt2#K-wK|730ulv3|7035t+|730x62tW|70z9wJ2tM|70vcz9wJ2tM|730(rzl|730@1hzl|730(rzl2#L",
    "|730@4Pzl|730@4Dzl|730@T^zl2#L|730@6@zl|730@N&zl|730@N[zl|70@5v@Q&|70@v1@Q&|730ulvB2*R|730ulvB2*",
    "RPwK|t803vB|t803vB2tW|t803vt|t803tu|t803ultu|t803ultu2tW|t8035wutu|t803v(|t803u?|t80&s|t80i&s|t8",
    "0ulx0|t80)E|t80vcx0|t80Zt(uk|t80ct(uk|t80z9wJ|t80vcz9wJ|t80cw6|t80Zw6|t80tjw6|t80t$w6|t80v.wf|yE",
    "|t80tJvL|t80wH|t80v6wf|t80wCwf|t80t_tJvL|t80t_wH|t80t_wCwf|t80t_v6wf|t80#ZzY|t80t(#ZzY|t80)MZt(u",
    "k|t80)Mct(uk|t80tjzF|t80t$zF|t80ts1|t80!c1|xA|tAg|ukg|%P|3u(|iv6wf|t80[P6tW|t80xgwf|t803#O|t803t",
    "+|t803tt|t803vj|t803vcz9wJ|t80)Y-uAtiu0|t80uAtiu0|t80(Gtiu0|t80t_tiu0|t80)Y-t_tiu0|t80)[@6ftij|t",
    "80&%@6ftij|t80@VM|t80[bl|t80i)E|t80t_t$w6|t80t_tjw6|t80t_cw6|t80t_Zw6|t80t_uk|t80tRwCwf|t80tRiwC",
    "wf|t80tRiv6wf|t80t_u(|t80zLzY|t80*7uAti|t80zmuAti|t80*7t_ti|t80zmt_ti|t80@Sr|t80uj@Sr|t80t_cQ|Xw",
    "Cwf|Xv6wf|Xv.wf|Xu(|XwH|X*x|XxA|XtAg|Xw7|XtWg|Xukg|Xiv6wf|XyE|XtJvLg|XitJvLg|XiwCwf|XzG|XwuxA|Xu",
    "lx0g|Xx0g|Xvcx0g|Xx0gZ|XwCwft9|Xv6wft9|XczFt9|XZzFt9|Xcv+g|XzJ|Xct(ukt9|XtjzFt9|Xt$zFt9|Xts1t9|X",
    "!c1t9|X[JJtWt9|XyatWt9|XtAt9|Xw7t9|Xukt9|Xx0t9|Xz:|X%P|XtJvLt9|X.dt9|Xwui@HWt9|XyEt9|Xv.wft9|XxA",
    "t9|XwuxAt9|Xu(t9|XwHt9|Xt_vL|Xit_vL|Xu(#C|Xv:tM#C|XugtM#C|Xv:#4#C|Xug#4#C|XZt(ukt9|Xwu.dt9|Xlt9|",
    "X[R(t9|Xvjg|XtJu(|Xi*x|XwCtij|Xv6tij|Xay0|Xa@85|Xa$g$9|Xay:|X.dg|Xz21t9|XitJvLt9|Xcv+t9|Xwxu(g|X",
    "@L_g|X$yustGg|XcZQt9|Xu:Qt9|X@?L*a|XZw6g|Xct(ukg|X@6[|Xvjt9|Xcw6t9|XZw6t9|XZw6Ptjw6t9|XZt(ukg|Xt",
    "AgZ|Xy4t9|Xiukt9|X&)g|XixAt9|XixA|XiwH|XiwHt9|Xiu(|XiwuxA|XitlQt9|X730F|X730f|X730t6|X730t1|X730",
    "n|X730tb|X730tV|X730vB|X730uz|X730tu|X730u]|X730v5|X730vj|a50@L#|a30@L#|a50yi:t|a30yi:t|aw41|at)",
    "w41|a50@Ql.r|a30@Ql.r|ay:|a3vc()!yB|a3yF()!yB|a3vcyF()!yB|a!6j|a50@0o|a$9|a$g$9|a50wS2$9|a*2@U1|",
    "a50y!2$9|a50xN2$9|a50xW2$9|a50z%2$9|a50x=2$9|a50wO2$9|a30xW2$gP$9|a50wS|a50#[|a50#O|a50#v|a50y!|",
    "a50&P|a50xN|a50!?|a50xW|a50$L|a50%s|a50x]|a50zC|a50%b|a50z%|a50xi|a50!Q|a50!y|a50$W|a50x=|a50!.|",
    "a50!m|a50$r|a50wO|a50xW2$g|a50x=2$g|a30wS2$9|a30y!2$9|a30xN2$9|a30xW2$9|a30x=2$gP$9|a30wS|a30#[|",
    "a30#O|a30#v|a30y!|a30&P|a30xN|a30!?|a30xW|a30$L|a30%s|a30x]|a30zC|a30%b|a30z%|a30xi|a30!Q|a30t2!",
    "y|a30!y|a30$W|a30x=|a30!.|a30!m|a30$r|a30wO|a30xW2$g|a30x=2$g|a30z%2$9|a30x=2$9|a30wO2$9|a5:DB|a",
    "#[B|a!?B|ax=2tWB|ax=2v6PtWB|ax=2w7PtWB|a!.B|axiB|a:DB|a0yi:K|a30yi:K|a0@Ar|a30@Ar|a0.r|a30.r|a0:",
    "K|a30:K|a0:t|a30:t|to50**|to30**|to50@Ks|to30@Ks|to50:G|to30:G|to50:4|to30:4|to50.:|to30.:|to50+",
    "[|to30+[|to50@Jj|to30@Jj|a$LB|a!QB|a()!yB|a0@0o|a5!?B|a()y!B|avc()y!B|a50(R|a30(R|a5()!yB|a50:u|",
    "a30:u|a!Q2tMB|a5vc()!yB|a5yF()!yB|a5vcyF()!yB|k50$n2wC|k50@7v|k50@1n|k50@7N|k50@0d$n|k50*M|k50@I",
    "c-@0dt6|k509|k50&f|k50@2v|k50*r|k50@Un|k50@M_|k50t62wC|k50v:n|k50@K4|k50F|k50%8|k50$x|k50$I|k50#",
    "7|k50$n|k50%5|k50#a|k50t6|k50v:t6|k50td|k50#9|k50#B|k50xM|k50t1|k50x_|k50%G|k50%H|k50xv|k50n|k50",
    "(s|k50t]|k50%(|k50!]|k50wI|k50@AJ|k50(#1|k50(f|k50%#1|k50f|k50xJ|k50uY|k30F|k30%8|k30$x|k30$I|k3",
    "0#7|k30$n|k30%5|k30#a|k30t6|k30v:t6|k30td|k30#9|k30#B|k30xM|k30t1|k30x_|k30%G|k30%H|k30xv|k30n|k",
    "30(s|k30t]|k30%(|k30!]|k30wI|k30@AJ|k30(#1|k30(f|k30%#1|k30f|k30xJ|k30uY|k30$n2wC|k30@7v|k30@1n|",
    "k30@7N|k30@0d$n|k30*M|k30@Ic-@0dt6|k309|k30&f|k30@2v|k30*r|k30@Un|k30@M_|k30t62wC|k30v:n|k30@K4|",
    "k50wO|k30wO|k50)@|k30)@|k50$)f|k30$)f|k50wZzw|k30wZzw|k50$)wZzw|k30$)wZzw|k50%9zw|k30%9zw|k50$)%",
    "9zw|k30$)%9zw|k50@2g|k30@2g|k50$r|k30$r|k50+h|k30+h|k50:A|k30:A|k50:A2iwCwf|k30:A2iwCwf|k50=3|k3",
    "0=3|k50$:wO|k30$:wO|k50wO2@0U|k30wO2@0U|k50@3G|k30@3G|k50:K|k30:K|k+31|Xk@0U|Xk[JI|Xkvy@RD|Xkw2@",
    "RD|Xk[LX|XkuE+31|Xk+!1|k50v:t62wK|k30v:t62wK|k50@Sf1|k30@Sf1|k50%G2)7|k30%G2)7|k50$I2@Bb|k30$I2@",
    "Bb|k50$I2tM|k30$I2tM|k50$I2tRtW|k30$I2tRtW|k50%52yl|k30%52yl|k50#a2yl|k30#a2yl|k50td2yl|k30td2yl",
    "|k50td2tJtM|k30td2tJtM|k50td2tM|k30td2tM|k50@H%td|k30@H%td|k50xM2yl|k30xM2yl|k5YxM$I|k3YxM$I|k50",
    "x_2tRtW|k30x_2tRtW|k50)^t]|k30)^t]|k50%H2yl|k30%H2yl|k50xv2yl|k30xv2yl|k50z7n|k30z7n|k50z7n2tM|k",
    "30z7n2tM|k50t]2yl|k30t]2yl|k5Yxv%(|k3Yxv%(|k50!]2yl|k30!]2yl|k50!]2tJtM|k30!]2tJtM|k50@3&|k30@3&",
    "|k50)^!]|k30)^!]|k50)^!]2yl|k30)^!]2yl|k0@Qj|k50%52xA|k30%52xA|k50td2tW|k30td2tW|k50#92wK|k30#92",
    "wK|k50xM2tW|k30xM2tW|k50xM2wK|k30xM2wK|k50@M+!]|k30@M+!]|k50#B2wK|k30#B2wK|k30@Qj|k50F2xA|k30F2x",
    "A|k50F2w7|k30F2w7|k5YF$n|k3YF$n|k50$n2xA|k30$n2xA|k50&t|k30&t|k50&t2w7|k30&t2w7|k50%52w7|k30%52w",
    "7|k50#a2w7|k30#a2w7|k50)^*M|k30)^*M|k50t62wH|k30t62wH|k50t62w7|k30t62w7|k50t12w7|k30t12w7|k50$!t",
    "1|k30$!t1|k50$!t12w7|k30$!t12w7|k50f2w7|k30f2w7|k50n2wH|k30n2wH|k50n2w7|k30n2w7|k50n2iv6|k30n2iv",
    "6|k50!]2w7|k30!]2w7|k50$I2yl|k30$I2yl|k50(f2w7|k30(f2w7|k50$I2tMPtW|k30$I2tMPtW|k50t]2tW|k30t]2t",
    "W|k50t]2tM|k30t]2tM|k50$.#7|k30$.#7|k50$.@1n|k30$.@1n|k50$.@W9|k30$.@W9|k50$.@K6|k30$.@K6|k50$.@",
    "2v|k30$.@2v|k50$.*r|k30$.*r|k50$.@T4|k30$.@T4|k50$.@UN|k30$.@UN|k50vc#a|k30vc#a|k50#92tW|k30#92t",
    "W|k50*d|k30*d|k50)x|k30)x|k50)?|k30)?|k50#%|k30#%|k50z.|k30z.|k50@H9td|k30@H9td|k50#92tRtW|k30#9",
    "2tRtW|k50xM2tRtW|k30xM2tRtW|k50x_2yl|k30x_2yl|k50@3&2yl|k30@3&2yl|k50xM2ctW|k30xM2ctW|k50@KC|k30",
    "@KC|k50@JX|k30@JX|k50#92yl|k30#92yl|vI50@5j|vI50@5u|vI50@7M|vI50u=|vI50.y|vI50xy|vI50(t|vI50&2|v",
    "I50tG|vI50%5|vI50@7r|vI50@Nx|vI50@Bw|vI50wM|vI50:F|vI50zA|vI50wE|vI50@LS|vI50@I#|vI50(F|vI509|vI",
    "50@35|vI50wI|vI50)A|vI50wt|vI50)r|vI50@Mc|vI50uS|vI50@Sc|vI50@Bg|vI50@UM|vI50y)|vI50&X|vI50@B(|v",
    "I50@9m|vI50@7]|vI50?v|vI50y#|vIt80ct(uk|vI)E|vI@KXj|vI!nj|vIx0|vI!6j|vI#.j|vI30ul@5j|vI30@5j|vI3",
    "0@5u|vI30@7M|vI30u=|vI30.y|vI30xy|vI30(t|vI30&2|vI30tG|vI30%5|vI30@7r|vI30@Nx|vI30@Bw|vI30wM|vI3",
    "0:F|vI30zA|vI30wE|vI30@LS|vI30@I#|vI30(F|vI309|vI30@35|vI30wI|vI30)A|vI30wt|vI30)r|vI30@Mc|vI30u",
    "S|vI30@Sc|vI30@Bg|vI30@UM|vI30y)|vI30&X|vI30@B(|vI30@9m|vI30@7]|vI30?v|vI30y#|vI3Y.y@B(|vI3092tM",
    "|vIxhwJ|vI$(|Z-%lvI@6$1|c-%lvI@6$1|vI@J@1|uMwf@)^|uMwf@AD|uMwf[SU|uMwf@W2@Rc|uMwf@W2@:U|uMwf[Ys|",
    "uMwf[P1|uMwf[iS|uMwf[J(|uMwf[h3|uMwf[X_|uMwf@7H|uMwf@7H[A@|uMwf@LK|uMwf[M(@Qp|uMwf@U2@:#|uMwf[K2",
    "|uMwf@q%@?@|uMwf[A(|uMwf[7.|uMwf@O%|uMwf@O%[19|uMwf@$_|uMwf[M!|uMwf@U2[M.|uMwf[h2@5u[hO|uMwf[IU|",
    "uMwf@^e|uMwf@%n|uMwf[i[|uMj[8Wtx|uM!g[Sr|uM!g@7X@AD|uM!g@7X@3N|uM!g@7X@3e|uM!g@L+|uM!g[Zx|uM!g@A",
    "D|uM!g@3N|uM!g@3e|uM!g@7f|uM!g@7f@@Lh=6|uM!g[NO|uM!g!^vM@8b|uM!g[98|uMv1[8I|uM!g@3k|uMv1[J%|uM!g",
    "zUtA|uM!g@3?tA|uMv1@TG[J:|uMjt@tA|uMjt)tA|uMv1xB@?[|uM!g@3e@Rc|uM0t^|uM0.a|uM0$i|uM0@1a|uM0x#|uM",
    "0=6|uM0%c|uM0@L!|uM0.D|uM0)D|uM0t2xu|uM0xu|uM0@2o|uM0t2#h|uM0#h|uM0t2xB|uM0xB|uM0$?|uM0$c|uM0t2x",
    "_|uM0x_|uM0t2@BQ|uM0@BQ|uM0@9(|uM0$R|uM0zU|uM0@A[|uM)Dtm|uMY@4oi=6|uMY@4o=6)D|uMY@4oi)D|uMv1@7H|",
    "uMv1@LK|8V1|81[RS|8@K)*j|81@SM|81[RQ|8Vjg|8-uy@6O@07|8-uy+j@07|8@9?|8-uy*z@O]1|8-uy*zvvux1|@o:1|",
    "8x0|8@JV!w|8[LU@Bf1|81[A7|81@SP=O[e*|81=O@qn|81[OP=O|81:o@pX@p$|81[XS|83uAyv|83uAYt^2wF2tn|83uA%",
    "4|83%n|83&^|83%r|8&v|80j|8zmtS)&j|8x9tAv1j|8!6j|80@Mvtn|80v[|80t^2(Eg|80t^2v[g|80yP2v[g|80t^2v[t",
    "9|80tn2v[g|80t^|80yD|80xe@2#|80xe|80#5|80u_|80ut|80wm|80#_|80+0|80y)|80%4|80xq|80yN|80zM|80za|80",
    "yv|80%.|80yC|80!p|80&g2t3pg|80&g2tCpt9|80%mtn2wuv5|80%mtn2t3pg|80%mtn2tCpg|8:=|80y#|80z6|80xu|80",
    "wF|80tg|80wq|80x$|80yP|80t^wh|80tn|8+e|8=p|8?M|8%n|8&^|8%r|8%z|8*]|8@Ofg|8v[g|8v[t9|8yut^|8wu&^|",
    "8jwq=]|8[jJ|8H13v5g|8H1wu3v5g|8H1tAt9|8vc&^|8%n2t3p|8(bv[t9|8-uyEvV|8-uyEt0|8-uyEt3|8-uyEtC|8-uy",
    "EtQ|8-uyEtX|8-uyEt=|8-uyEuB|8-uyEt?|8-uyEuF|8?*1|8@6b!w|8+3!w|8tXy(x8|80#eyD|80#ez6|80!St^|80t^@",
    "4d|80t^2(bv[g|80t^2(bv[t9|80uAv[|80uAv[t^|80uAv[yP|80n2v[g|80uAv[tn|80=0|80@0Y|80=Y|80xe2uk|80xe",
    "2tCpgu%|80)r|80@0P|80=Z|80ut2v[g|80ut2t3ptJg|80?t|80=w|80ut2tCpg|80.A|80@0O|80@6Y|80#_2uk|80#_2t",
    "At9|80#_2tAt9P3yv|80@6U|80@6X|80@6s|80#_2tCpgu%|80#_2tQpg|80@A2|80y)23v5|80y)2uk|80y)2tAt9|80y)2",
    "3v5t9|80y)2tAt9PtAg|80y)2t3pg|80@7%|80y)2tQpg|80xq2tAt9PtAg|80xq2tCpt9|80xq2tCpt9PtCpg|80zM2t3pt",
    "9|80zM2tCpg|80yv2tCpg|80yC2tCpg|80#ey#|80y#2tA[Ait9|80y#2tAt9|80@0f|80y#2tCpt9|80?(|80z62tAg|80z",
    "62tCpg|80&g|80:.xu|80xu2uk|80xu2tAg|80#$|80xu2tCpt9|80(z|80(z2uk|80?n|80(z2t3pt9|80?3|80(z2tCpg|",
    "80wF23v5|80wF2tAg|80wF2tCpg|80wF2tCpt9|80wq2tAt9|80wq=]|80@05|80wq2uk|80wq2tCpg|80x$=t|80.A2tAg|",
    "80x$2tng|80x$*T|80x$*T2v[g|80xe@2#*T|80yP2uk|80(AyM|80yM|80n|80xJ|80(AxJ|80yP2t3pg|80$x|80%mtn|8",
    "0tn2wK|80tn23v5|80yP2tAg|80f|80tn2tCpt9|80tn)H|80tn)H2v[g|8xhwJ|80z0|83uAYzM2wF2t^wh|83uAYz62wF2",
    "t^wh|83uAtgtcG|83uAwFt^|83uAu_|83uAtCp|83uAxq|8zmtS@Hn|8@0JtS@09#9@[0|83uA%UvV|83uA[b%@R#vV|83uA",
    "#ez@tSwm|83uAtgtPG|83t_xq|83uA(E|83yP|83tn|83uAtn|83uAwq|8+)tS[R8|8%Ewvt_wJ|8%EwvuAwJ|8%UuAwJ2@+",
    "rwv|83t_tg|80#_2wuv5|80y)2wuv5|#N8-uyEvV|#N8-uyEt0|#N8-uyEt3|#N8-uyEtC|#N8-uyEtQ|#N8-uyEtX|#N8-u",
    "yEt=|#N8-uyEuB|#N8-uyEt?|#N8-uyEuF|80yN2tAt9|80za2tAt9|80!p2tAt9|81@S_*1|81@S_[Lm(F|80x$2wuv5|vd",
    "zmtS?$|vd@A$xhwJ|vd@A!xhwJ|vd@A$zY|vd@A!zY|vdt*zY|vdzY@3[c|vdzY@3[Z|vd@A$zY@3[c|vd@A!zY@3[Z|vd@!",
    "$|vd@7W[I9|vd@7W[9A|vd@7W@qp|vd#.j|vd0@H7|vd0!S@H7|vd0$d|vd0@L5|vd0@L5@L8|vd0@JN|vd0#e@JN@9]|vd0",
    "x#|vd0yP|vd0%4|vd0$&|vd0(X|vd0(X@L8|vd0@V(|vd0@V(x#|vd0$*|vd0[3!|vd0@2+|vd0xB|vd0@Sh|vd0t2@Sh|vd",
    "0f|vd0x_|vd0vcx_|vd0$=|vd0[M%|vd0@9]|vd0zU|vd0$u|vd0xd@I0|vd0xd@=V|vd0xd@%^|vd@9wg|vd@9wt9|vd@9w",
    "yF|vd@B]g|vd@B]t9|vd@B]yF|vd@Rvg|vd@Rvt9|vdyF@WBt*|vdyF@WB@pz|vd@7Yg|vd@7Yt9|vd@7Y-@6#yF|vd@6#g|",
    "vd@6#t9|vd[QB|vd@KttA|vd[Ne|vd[P@|vdt3tJpg|vdt3tJpt9|vdtCpg|vdtCpt9|vd$pvLg|vd$pvLt9|vd@2@|vd@u7",
    "|vd0vr[if|vd0vr@M:|vd0vr&d|80yD2tCp@]It9|80yD2tAt9PtCpg|80yD2tCpt[u:t9|80yD2tCpt[u:t9Pt3pg|80yD2",
    "t3pt9PtAg|80yD2wu3v5t9|80yD23v5|80ut2t3pg|80ut2tCpt[u:t9|80#_2t3p+At9P3yv|80#_2wu3v5t9|80y)2tM|8",
    "0xq2tQpg|80yC2t3pg|80yC2tCpt[u%g|80yC2t3p+Ag|80y#2t3pt9|80y#2tCpt[u:t9|80&g2tAg|80&g2tCpg|80&g2t",
    "Cpt[u:t9|80tg2tAg|80tg2tAt9|80wq2t3pt9|80wq23yv|80wq23v5|80wF2u0|80y)2t3p+Ag|80y)2v[g|80xq2t3p+A",
    "g|80ut2380yvt9|80ut2380yvPt3p|80xq2380yvPt3p|80y)2380yvPt3p|80ut2380yvg|80t^2#N8-uyEt3g|80t^2#N8",
    "-uyEtCg|80%mtn2#N8-uyEt3g|80%mtn2#N8-uyEtCg|80%mtn2#N8-uyEtQt9|80yP2#N8-uyEt3g|80yP2#N8-uyEtCg|8",
    "0tn)H2#N8-uyEt3g|80tn)H2#N8-uyEtCg|80ut2#N8-uyEtQt9|80xq2#N8-uyEtQg|80xq2wuv5|80xu2t3pg|xw0(6|xw",
    "0[Sc|xw0[F4|xw0@00|xw0@16|xw0[4O|xw0[0c|xw0@pU|xw0[dC|xw0[8(|xw0@+7|xw0@%@|xw0@0Q|xw0[3e|xw0@:T|",
    "xw0@=]|xw0[R=|xw0@%4|xw0[iU|xw0[Xl|xw0=D|xw0[J_|xw0@_S|xw0@x+|xw0@Ut|xw0@L%|xw0@M)|xw0[Y1|xw0@V_",
    "|xw0[Sg|xw0[Q_|xw0@$w|xw0tG|xw0&*|xw0@pE|xw0@=U|xw0[My|xw0[eu|xw@oh|xw@nS|xw@^M|xw@)K|xw[bM|xw[I",
    "b|xw@)G|xw@*I|xw[ID|xw[I5|xw*]|xw0:V|w[EvV|w[Et0|w[Et3|w[EtC|w[EtQ|w[EtX|w[Et=|w[EuB|w[Et?|w[EuF",
    "|w[0F|w[0yX|w[0t6|w[0f|w[0n|w[0x.|w[0t1|w[0@$%|w[0u5|w[0vS|w[0tr|w[0uq|w[0wE|w[0wt|w[0u=|w[0uS|w",
    "[0#&|w[0up|w[0@7E|w[0yd|w[0td|w[0uw|w[0ue@Vf|w[0ub|w[0wy|w[0ue|w[0t]|w[0v#|w[0uY|w[0wy@Vf|w[0@7&",
    "wE|w[0@7&wt|w[0@7&uS|w[Xv:uAti|w[Xv:t_ti|w[Xv:%Sti|w[Xug@6gti|w[XuguAti|w[Xugt_ti|w[Xug%Sti|w[X@",
    "8)j|w[XitAg|w[uAti)E|w[t_ti)E|w[Bx.@%z|w[B@:o|w[x0|w[!nj|w[[3w|w[@$]|w[@&^1|w[[XV1|w^0@H6|w^0@I7",
    "|w^0@:Z|w^0@$.|w^0@7!|w^0@16|w^0@0r|w^0@7z|w^0@UK|w^0@4r|w^0@Mn|w^0[3i|w^0@2+|w^0xB|w^0[Tc|w^0w*",
    "|w^0(0|w^0[Zu|w^0[NR|w^0@9]|w^0yB|w^0[XD|w^jw*|w^jw*-@H6|w^j[II|w^j!^|w^t80@Kc@4r|w^j@Kc@4r|w^H1",
    "ugf|w^H1f|w^H1@Qcve|w^H1ugve|w^H1ve|w^H1@QcF|w^H1ugF|w^H1F|w^t80v:F|w^H1v:F|w^H1ugn|w^H1n|w^t80t",
    "6|w^H1ugt6|w^H1t6|w^H1t1|w^H1*]|w^j@Pa|w^v1@Pa|w^v1@o@|w^v1@ps|w^v1@uE|w^v1@q$|w^v1[Sy|w^#.j|w^v",
    "1[8?@Re|w^v1[i_|w^v1@Re|w^v1[iJ|w^v1[aN|w^v1@qN|w^v1@TG[8V|w^v1@p.|!00@@5|!00#c|!00@0[|!00+K|!00",
    "&R|!00[b^|!00@Hp|!00@7z|!00@q(|!00@pK|!00.S|!00#:|!00(i|!00yz|!00#q|!00w*|!00@HP|!00@qw|!00=T|!0",
    "0*3|!00xK|!00!U|!00@(Q|!00[0i|!00yC|!0@o.j|!0[d(j|!0=@j|!0v1|vd0uQw9|vd0uQwE|vd0uQwy|vd0uQxr|vd0",
    "uQyI|vd0uQ?r|vd0uQyK|vd0uQuS|vd0uQ!Y|vd0uQ:P|vd0uQyt|80t^2#d%n|80t^2#dxxZ%n|80t^2ZtRtM|80t^2ctRt",
    "M|80t^2#d%r|80t^2#dywZ%r|80t^2#d$:tAg|80t^2#dZ$:tA|80t^2#dc$:tA|80t^2#d$:tAt9|80t^2tAg|80t^2#dxx",
    "Z%nPtAg|80t^2ZtRtMPtAg|80t^2#dywZ%rPtAg|80t^2#dxxZ%nPcuk|80t^2ZtRtMPcuk|80t^2#dywZ%rPcuk|80t^2#d",
    "Zv[|80t^2#dcv[|8:=2@Qev[|8:=2@QeyP|8:=2t3pt9|80@4Etn|8@H$$:tA|8zL$:tA|80wq2wu3v5|80ut2wu3v5t9|80",
    "yv2tAt9|80yv2tCpt9|80&g2t3p+At9|8tJwK|8@3ajg|8[Kyjg|83uA#H#:-[0J|83t_#H@_A|83t_#H@^g|83t_#H[Xg|8",
    "(E[et|8!St^[AL|8=v(E|8t((EuR(E|80yD23v5t9|80yD2v[g|80u_2t3pg|80yv2t3pg|80y#2tAt9PtCpg|80z62tAt9|",
    "80wF2iu0|80tg2tCpg|80tn2t3pt9Pv[g|80tn2t3pt9PtAg|80y)2!Z|80yP2tA.J|80xptn|80t_t^|80#_2tCpt9|80zM",
    "2tCpt9|80(z2wutM|80z7yP|80%42wuv5g|80yC2tCpt9|80xu2tAt9|80z62tAt9Pxopg|80yD23tgg|80)r23tgg|80xe2",
    "3xeg|80y)23wqg|80tn2t3pt9P3wqg|80=Ny#|80=Nz6|80=Nwq|80)r23v5|80xe23v5|80=023v5|80.A23v5|80&g23v5",
    "|80!p2tCpg|80=Nz62tCpg|80u_2tCpg|80u_2tCpt9|80wF2380yvg|80@?H|83%mtn|83uA%mtn|83uAtn)H2t3pt9|83u",
    "A#H@SN|83uA%.|8vT$:tAg|8vT$:tAt9|8*]t9|8vTtxt9|8vT$:tA$3txt9|83t_yP|83uA#H*3-@09|83uAzM|83uAyC|8",
    "3uAz6|83uAwq2%r|83t_wq2%r|83uA#H@qx-[Y4|83uA#H#q-[R7|83uA#Hyz-[E4|83uA#H[RE|83uA#H[NB|83uA#H[e&|",
    "83uA@K)*j|83uA1@SM|8@&jzmtS@Hn|8ul&^t9|8z1%n|8z1&^|8z1%r|8z1+e|8z1=p|8z1?M|8tit0tAg|8tit3pg|8ti!",
    "Zg|8tit0tAt9|8tit3pt9|8ti!Zt9|8uj+e|8uj=p|8uj?M|83uAyP|8%n2uk|8%n2tAg|8%r2tAt9|8cw6g|8Zw6g|8cw6t",
    "9|8Zw6t9|8iZw6g|8iZw6g2tA|8Zw6g2tA|8&^2tA|8j$8wq=]|t.1wuzG|t.1zG|t.1xa|t.1y.|t.0v:F|t.0F|t.0ve|t",
    ".0t6|t.0v]|t.0n|t.0wL|t.0u3tu|t.0u3t+|t.0%Af|t.0v:f|t.0f|t.0v*|t.0%At1|t.0v:t1|t.0t1|t.0wA|t.0td",
    "|t.0ww|t.0v0|t.0x[|t.0w9|t.0wM|t.0wt|t.0wE|t.0z4|t.0wy|t.0xr|t.0yb|t.0xs|t.0yk|t.0yI|t.0uq|t.0x3",
    "|t.0u=|t.0x+|t.0ue|t.0?r|t.0tr|t.0xT|t.0vS|t.0yK|t.0ub|t.0uY|t.0uS|t.0#&|t.0uw|t.0!Y|t.0:P|t.0xU",
    "|t.0wI|t.0yt|t.0up|t.0t]|t.H1yM|t.H1@QT|t.1!+|t.1$z|t.H1ve|t.H1t6|t.H1v]|t.H1n|t.H1wL|t.H1u3tu|t",
    ".H1u3ys|t.H1%Af|t.H1v:f|t.H1f|t.H1v*|t.H1%At1|t.H1v:t1|t.H1t1|t.H1wA|t.1yg|t.H1@9vf|t.H1@5h|t.&B",
    "|t.@0K1@4V|t.@0K1=R|t.wCwf|t.v6wf|t.H1%Augf|t.H1#G|t.H1@Bc|t.0#%|t.0@M=|t.0@7K|t.0xy|t.0@JZ|t.0)",
    "x|t.0yd|t.0@4s|t.0u3ys|t.0u3zB|t.H1u3t+|t.H1u3zB|t.zz|t.izz|t.EvV|t.Et0|t.Et3|t.EtC|t.EtQ|t.EtX|",
    "t.Et=|t.EuB|t.Et?|t.EuF|t.#.1|t.1uA@AgtA|t.0%AF|t.0yM|t.0@QT|t.0@5h|t.0#G|t.0@Bc|t.0[8Sxs|t.0#b|",
    "t.0tTuY|t.0.?|t.0?H|t.0z9wJ|t.0@1c|t.0+Q|vJ@5b|vJ1zG|vJ1xa|vJ1y.|vJ0F|vJ0ve|vJ0t6|vJ0v]|vJ0n|vJ0",
    "wL|vJ0u3tu|vJ0u3t+|vJ0f|vJ0v*|vJ0t1|vJ0wA|vJ0td|vJ0ww|vJ0v0|vJ0x[|vJ0w9|vJ0wM|vJ0wt|vJ0wE|vJ0z4|",
    "vJ0wy|vJ0xr|vJ0yb|vJ0xs|vJ0yk|vJ0yI|vJ0uq|vJ0x3|vJ0u=|vJ0x+|vJ0ue|vJ0tr|vJ0xT|vJ0vS|vJ0yK|vJ0ub|",
    "vJ0uY|vJ0uS|vJ0uw|vJ0wI|vJ0yt|vJ0up|vJ0t]|vJ1!+|vJ1$z|vJH1ve|vJH1t6|vJH1v]|vJH1n|vJH1wL|vJH1u3tu",
    "|vJH1u3ys|vJH1f|vJH1v*|vJH1t1|vJH1wA|vJ1yg|vJ0[1auq|vJwA#Sj|vJ0#&|vJ0)x|vJ0@4s|vJ0u3ys|vJ0u3zB|v",
    "JH1u3t+|vJH1u3zB|vJEvV|vJEt0|vJEt3|vJEtC|vJEtQ|vJEtX|vJEt=|vJEuB|vJEt?|vJEuF|vJ0uS2tRuf|vJ0uS2t)",
    "uf|vJ*$j|vJ*$1|vJ&]:ct0|vJ&]:ct3|vJ&]:ctC|vJ&]:ctQ|vJ&]:ct0x1uXyO@Jm|vJ&]@Jm)3|vJ@MV|vJ@:cj|vJ0x",
    "?xa|vJ#.1|vJ)yj|v@1@op@I4|v@1@I4|v@1y.|v@0F|v@0ve|v@0t6|v@0v]|v@0n|v@0wL|v@0yX|v@0v*|v@0x.|v@0wA",
    "|v@0td|v@0ww|v@0v0|v@0x[|v@0w9|v@0wM|v@0wt|v@0wE|v@0z4|v@0wy|v@0xr|v@0yb|v@0xs|v@0yk|v@0yI|v@0uq",
    "|v@0x3|v@0u=|v@0x+|v@0ue|v@0tr|v@0xT|v@0vS|v@0yK|v@0ub|v@0uY|v@0uS|v@0uw|v@0!Y|v@0xU|v@0wI|v@0up",
    "|v@0t]|v@1!+|v@H1ve|v@H1t6|v@H1v]|v@H1n|v@H1wL|v@H1yX|v@H1v*|v@H1x.|v@H1wA|v@1yg|v@1[bN|v@0@M=|v",
    "@0@7K|v@0xy|v@0#&|v@0yd|v@EvV|v@Et0|v@Et3|v@EtC|v@EtQ|v@EtX|v@Et=|v@EuB|v@Et?|v@EuF|v@[Yu|v@@oq|",
    "v@@_5|v@[b*|v@.z[IZ|v@1[gx|v@#.1|vW1zG|vW1xa|vW1y.|vW0F|vW0ve|vW0t6|vW0v]|vW0n|vW0wL|vW0u3tu|vW0",
    "u3t+|vWH%Af|vW0f|vW0v*|vWH%At1|vW0t1|vW0wA|vW0td|vW0ww|vW0v0|vW0x[|vW0w9|vW0wM|vW0wt|vW0wE|vW0z4",
    "|vW0wy|vW0xr|vW0yb|vW0xs|vW0yk|vW0yI|vW0uq|vW0x3|vW0u=|vW0x+|vW0ue|vW0tr|vW0xT|vW0vS|vW0yK|vW0ub",
    "|vW0uY|vW0uS|vW0uw|vW0!Y|vW0xU|vW0wI|vW0yt|vW0up|vW0t]|vW1!+|vW1$z|vWH1ve|vWH1t6|vWH1v]|vWH1n|vW",
    "H1wL|vWH1u3tu|vWH1u3ys|vWH1%Af|vWH1f|vWH1v*|vWH1%At1|vWH1t1|vWH1wA|vW1yg|vW&B|vW0u3ys|vW0u3zB|vW",
    "H1u3t+|vWH1u3zB|vWEvV|vWEt0|vWEt3|vWEtC|vWEtQ|vWEtX|vWEt=|vWEuB|vWEt?|vWEuF|vW#.1|vW*$1|vW0#b|vW",
    "1*]|vW1%z|vW1@Of|vW1tC-tA!+g|vW1tx!+g|vW1t3-tx!+g|vZ1zG|vZ1xa|vZ1y.|vZ0F|vZ0ve|vZ0t6|vZ0v]|vZ0n|",
    "vZ0wL|vZ0u3tu|vZ0u3t+|vZ0f|vZ0v*|vZ0t1|vZ0wA|vZ0td|vZ0ww|vZ0v0|vZ0x[|vZ0w9|vZ0wM|vZ0wt|vZ0wE|vZ0",
    "z4|vZ0wy|vZ0xr|vZ0yb|vZ0xs|vZ0yk|vZ0yI|vZ0uq|vZ0x3|vZ0u=|vZ0x+|vZ0ue|vZ0tr|vZ0xT|vZ0vS|vZ0yK|vZ0",
    "ub|vZ0uY|vZ0uS|vZ0uw|vZ0!Y|vZ0xU|vZ0wI|vZ0yt|vZ0up|vZ0t]|vZ1!+|vZ1$z|vZH1ve|vZH1t6|vZH1v]|vZH1n|",
    "vZH1wL|vZH1u3tu|vZH1u3ys|vZH1f|vZH1v*|vZH1t1|vZH1wA|vZ1yg|vZ1*x|vZv*#Sj|vZwA#Sj|vZ0#&|vZ0)x|vZ0@",
    "4s|vZ0u3ys|vZ0u3zB|vZH1u3t+|vZH1u3zB|vZEvV|vZEt0|vZEt3|vZEtC|vZEtQ|vZEtX|vZEt=|vZEuB|vZEt?|vZEuF",
    "|vZ@MV|vZ0v#|vZvAt0yr|vZvAt0t(|vZvAtC%R|vZvAt0*.|vZvAt0ym|vZvAtC@3@|uN1xa|uN1y.|uN0F|uN0ve|uN0t6",
    "|uN0v]|uN0n|uN0wL|uN0f|uN0yX|uN0v*|uN0t1|uN0x.|uN0wA|uN0td|uN0w9|uN0wM|uN0wE|uN0wy|uN0xr|uN0yI|u",
    "N0uq|uN0ue|uN0?r|uN0tr|uN0ub|uN0uY|uN0uS|uN0#&|uN0uw|uN0!Y|uN0:P|uN0xU|uN0wI|uN0yt|uN0up|uN0t]|u",
    "NH1ve|uNH1t6|uNH1v]|uNH1n|uNH1wL|uNH1f|uNH1yX|uNH1v*|uNH1t1|uNH1x.|uNH1wA|uN1yg|uN&B|uNwA#Sj|uNE",
    "vV|uNEt0|uNEt3|uNEtC|uNEtQ|uNEtX|uNEt=|uNEuB|uNEt?|uNEuF|uNVvv|uNVt0uE|uNVt0ux|uNzQ1|uN@8v1|uN@V",
    "z1|uN@%c1|uN@6K1|uN#qg1|uN*$1|uNV1|v41XzGg|v41zG|v41xa|v41y.|v41Xxag|v40F|v40ve|v40t6|v40v]|v40n",
    "|v40wL|v40u3tu|v40u3t+|v40f|v40yX|v40v*|v40t1|v40x.|v40wA|v40td|v40ww|v40v0|v40x[|v40w9|v40wM|v4",
    "0wt|v40wE|v40z4|v40wy|v40xr|v40yb|v40xs|v40yk|v40yI|v40uq|v40x3|v40u=|v40x+|v40ue|v40tr|v40xT|v4",
    "0vS|v40yK|v40ub|v40uY|v40uS|v40#&|v40uw|v40!Y|v40:P|v40xU|v40wI|v40yt|v40up|v40t]|v41!+|v41$z|v4",
    "H1ve|v4H1t6|v4H1v]|v4H1n|v4H1wL|v4H1u3tu|v4H1u3ys|v4H1f|v4H1yX|v4H1v*|v4H1t1|v4H1x.|v4H1wA|v41yg",
    "|v4#Sj|v4v*#Sj|v40z*|v40%_|v40[Pr|v40@PL@RF|v40u3ys|v40u3zB|v4H1u3t+|v4H1u3zB|v4EvV|v4Et0|v4Et3|",
    "v4EtC|v4EtQ|v4EtX|v4Et=|v4EuB|v4Et?|v4EuF|v41vE|v4vAEvVh+&+.tStQ|v4vAEt0h+&+.tStQ|v4vAEt3h+&+.tS",
    "tQ|v4vAEtCh+&+.tStQ|v4vAEt0h.)+.tStQ|v4vAEt3h.)+.tStQ|v4vAEtCh.)+.tStQ|v41[aS|vb1@AgzG|vb1zG|vb1",
    "xa|vb1y.|vb1vE|vb0F|vb0ve|vb0t6|vb0v]|vb0n|vb0wL|vb0u3tu|vb0u3t+|vb0f|vb0yX|vb0v*|vb0t1|vb0x.|vb",
    "0wA|vb0td|vb0ww|vb0v0|vb0x[|vb0w9|vb0wM|vb0wt|vb0wE|vb0z4|vb0wy|vb0xr|vb0yb|vb0xs|vb0yk|vb0yI|vb",
    "0uq|vb0x3|vb0u=|vb0x+|vb0ue|vb0tr|vb0xT|vb0vS|vb0yK|vb0ub|vb0uY|vb0uS|vb0#&|vb0uw|vb0!Y|vb0xU|vb",
    "0wI|vb0yt|vb0up|vb0t]|vb1!+|vb1$z|vbH1ve|vbH1t6|vbH1v]|vbH1n|vbH1wL|vbH1u3tu|vbH1u3ys|vbH1f|vbH1",
    "yX|vbH1v*|vbH1t1|vbH1x.|vbH1wA|vb1yg|vb#Sj|vbv*#Sj|vb0@PL@RF|vb0yd|vb0u3ys|vb0u3zB|vbH1u3t+|vbH1",
    "u3zB|vbEvV|vbEt0|vbEt3|vbEtC|vbEtQ|vbEtX|vbEt=|vbEuB|vbEt?|vbEuF|vb1:C|vb1=4|uQ1Xxag|uQ1zG|uQ1xa",
    "|uQ1y.|uQ0x?xa|uQ0F|uQ0ve|uQ0t6|uQ0v]|uQ0n|uQ0wL|uQ0u3tu|uQ0u3t+|uQ0f|uQ0yX|uQ0v*|uQ0t1|uQ0x.|uQ",
    "0wA|uQ0td|uQ0ww|uQ0v0|uQ0x[|uQ0w9|uQ0wM|uQ0wt|uQ0wE|uQ0z4|uQ0wy|uQ0xr|uQ0yb|uQ0xs|uQ0yk|uQ0yI|uQ",
    "0uq|uQ0x3|uQ0u=|uQ0x+|uQ0ue|uQ0?r|uQ0tr|uQ0xT|uQ0vS|uQ0yK|uQ0ub|uQ0uY|uQ0uS|uQ0#&|uQ0uw|uQ0!Y|uQ",
    "0:P|uQ0xU|uQ0wI|uQ0yt|uQ0up|uQ0t]|uQ0@Uy|uQ1tJu0yg|uQ1=iyg|uQ1$z|uQH1ve|uQH1t6|uQH1v]|uQH1n|uQH1",
    "wL|uQH1u3tu|uQH1u3ys|uQH1f|uQH1yX|uQH1v*|uQH1t1|uQH1x.|uQH1wA|uQ1yg|uQ0tA[O)|uQ1@Qp|uQ0)Ouz|uQ0)",
    "Ou?|uQ0)O[4)|uQwA#Sj|uQvAt0t0-uE-P-@T2|uQvAt0@K+|uQvAtC@KQ|uQvAt0@BY|uQvAt0@A_|uQvAtC@U&|uQvAt0@",
    "6]|uQ0yiv]|uQ0u3ys|uQ0u3zB|uQH1u3t+|uQH1u3zB|uQEvV|uQEt0|uQEt3|uQEtC|uQEtQ|uQEtX|uQEt=|uQEuB|uQE",
    "t?|uQEuF|uQVvv|uQVt0uE|uQVt0ux|uQvAt0yr|uQvAt0t(|uQvAtC%R|uQvAt0*.|uQvAt0ym|uQvAtC@3@|uQ@JVj|uQ0",
    ")O?q|uQ0)Ou5|uQ0)Oys|uQ0)Ot+|uQ0)OzB|uQ0)Ov3|u#1zG|u#1@p_|u#1[d$|u#0@rA|u#0@nc|u#0@o+|u#0@o#|u#0",
    "@_I|u#0@^Y|u#0[cB|u#0[c8|u#0@_7|u#0@_6|u#0@^f|u#0@^d|u#0@*H|u#0@)O|u#0@pH|u#0[I&|u#0[If|u#0@r2|u",
    "#0(h@Mw|u#0(*@Mw|u#0(h@7C|u#0(*@7C|u#0[0u@PJ|u#0@3v@7C|u#0(h@Io|u#0(*@Io|u#0(h@7#|u#0(*@7#|u#0@A",
    ":@PJ|u#0@A:[RY[B%|u#0@3v@7#|u#0(h@Uu|u#0(*@Uu|u#0(h@6Z|u#0(*@6Z|u#0@8$@PS|u#0@3v@6Z|u#0(h@T]|u#0",
    "(*@T]|u#0(h@6W|u#0(*@6W|u#0@6V@PS|u#0@3v@6W|u#0(h@Qw|u#0(*@Qw|u#0(h@5q|u#0(*@5q|u#0[8j|u#0@pf@5q",
    "|u#0[g@|u#0[Oi|u#0@6V@Na|u#0[dT|u#0@A:@A8|u#0@8$@A8|u#0@6V@A8|u#0@@S|u#0@8$@Na|u#0@+T|u#1#:-[3z|",
    "u#H1@5W-(K|u#H1@7^@G]-(K|u#H1+W@G]-(K|u#H1@7^*X-(K|u#H1+W*X-(K|u#H1@7^:g-(K|u#H1+W:g-(K|u#H1@L3-",
    "(K|u#H1?P|u#H1+W?P|u#H1[2O@%p|u#H1?P(6@5W-(K|u#H1?P(6+W@5W-(K|u#H1?P(6@7D|u#H1@7D|u#(&EvV|u#(&Et",
    "0|u#(&Et3|u#(&EtC|u#(&EtQ|u#(&EtX|u#(&Et=|u#(&EuB|u#(&Et?|u#(&EuF|u#H1+W@L3-(K|u#H1+W@7D|u#v1[2y",
    "|vnvOz#:D|vnvO&h@M*|vnvO&h[1m|vnvO&h[1o|vnvO&h[1h|vnvO&h[OV|vnvO+%[Do|vnvO&?@x#|vnvO&?@yG|vnvO&?",
    "@x$|vnvOzVzV|vnvO&?@yS|vnvOxX[hJ|vnvO#M@xv|vnvOtG[J?|vnvO#luX|vnvO#l[B.|vnvO#l[Kv|vnvOxo@8[|vnvO",
    "#M@%o|vnvOtG[Xa|vnvO#l[YS|vnvO#l[Y2|vnvO#l@UG|vnvOxozC|vnvO&U@t.|vnvO$P@3V|vnvO(J[Ku|vnvO(5yd|vn",
    "vO(J[Kk|vnvO(5@Kq|vnvO(J[RP|vnvOz$ub|vnvOxX@B!|vnvOzg[P+|vnvO!7|vnvO#!@Nr|vnvO!u|vnvOzj[ew|vnvOz",
    "V[RF|vnvOzV[Q7|vnvOzV@Az|vnvOzA:1|vnvO#!@ya|vnvOt1%:|vnvOzA[F0|vnvO[JH|vnvO%yF|vnvO#T@7V-@pI|vnv",
    "O%yve|vnvO%y(i|vnvO%yt6|vnvO%yv]|vnvO%y#G|vnvO%y[bS|vnvO%yn|vnvO%ywL|vnvO[Kn|vn&]B@t+|vnvO%yf|vn",
    "vO%yz0|vnvO%yt1|vnvO%yv*[7]|vnvO%yv*[7[|vnvO[3y|vnvO[80|vnvO[7_|vnvO#T.z|vnvO#T#l|vnvO#T[ZQ|vnvO",
    "#T@x)|vnvO[Y7|vnvO[D[|vnvO[g!|vnvO@.5|vnEvV|vnEt0|vnEt3|vnEtC|vnEtQ|vnEtX|vnEt=|vnEuB|vnEt?|vnEu",
    "F|vnvO@pv|vnvO[1g|v$0z#|v$0&h:+|v$0&h.8|v$0&Fx[|v$0+%|v$0&X|v$0&Fwt|v$0zV.8|v$0&Fz4|v$0)p|v$0&Fw",
    "y|v$0&Fxr|v$0&Fyb|v$0&Fxs|v$0&Fyk|v$0&FyI|v$0#M|v$0tG|v$0#l:+|v$0#l.8|v$0&Fx+|v$0xo|v$0&U|v$0$P|",
    "v$0(J:+|v$0(5.8|v$0(J.8|v$0(5:+|v$0&FyK|v$0z$|v$0xX|v$0#!@Nr|v$0#!@N$|v$0zj|v$0@STwI|v$0@STyt|v$",
    "0zV:+|v$0zA:+|v$0&F!Y|v$0t1|v$0zA.8|v$*N|v$H1F|v$H1#T:E|v$H1ve|v$H1(i|v$H1t6|v$H1v]|v$H1u?|v$H1@",
    "B.|v$H1n|v$H1wL|v$1&Fyg|v$H1#T@N3|v$@Sg1#!|v$@Sg1)p|v$H1f|v$H1)U|v$H1t1|v$H1&S|v$H1v*|v$z#uw|v$t",
    "i#T.z|v$ti#T#l|v$ti#T!#|v$ti#T@x8|v$@1Kj|v$[D+|v$EvV|v$Et0|v$Et3|v$EtC|v$EtQ|v$EtX|v$Et=|v$EuB|v",
    "$Et?|v$EuF|v$zAxo|v$zAz$|v$0@M@%p|v$0@M@)p|te4&B|tej?2&(%N[ZmF|tej?2&(%N<(a@S5@H:ub|tej?2&(%N<(a",
    "?2(Zub|tejtc&(%N@Oxub|tej=j&(%N@Skub|tej(n&(%N@Q[$@ub|tej&(%N(Z$@ub|tej[Ro$@|tej@v%&(%N|tej@vO>@",
    "Sx&(%N|tej@^@(Z|tej@1f(Z@v&|tej$@|tej@3A$@|tej(Z$@|tej@3A(Z$@|tej[PG@y0[Uk$@|tej@R]@Lb$@|tej(n<@",
    "K9&Ky[ug%g|tej?2(Z|te@N!1@xu&K|te@N!1[4N&K|te)F1[SN@:v<=e&K|te)F1<[1ptr|te)F1[R&[Z#|te1(^=s@LF|t",
    "e1(^=s@LX|te1(^=s@7S|te1(^?g@LF|te1(^?g@LX|te1(^=s(^?g|teEvV|teEt0|teEt3|teEtC|teEtQ|teEtX|teEt=",
    "|teEuB|teEt?|teEuF|teEt(t0|teEt(t3|teEt(tC|teEt(tQ|teEt(tX|teEt(t=|teEt(uB|teEt(t?|teEt(uF|teEt(",
    "vV|tej@v#&K|tej@Pd@Id%v@WA|tej(n<@K9&K@5*@O@%g|tej@Pd@Id[SM&K|tej!]%N|tejz*<[Ks|tej@Lh&K@Lq|tej@",
    "Lh&K@Lp|tej%:@M.@Lq|tej%:@M.@Lp|te1@Vv@Uo|te1@Oo@Uo|te0td|te0ww|te0v0|te0x[|te0w9|te0wM|te0wt|te",
    "0wE|te0wy|te0xr|te0yb|te0xs|te0yk|te0yI|te0uq|te0x3|te0u=|te0x+|te0ue|te0tr|te0xT|te0vS|te0yK|te",
    "0ub|te0z*|te0%Y|te0%_|te0=x|te0v#|te0#b|te0xy|te0<F|te0uY|te0uS|te0uw|te0wI|te0yt|te0up|te0t]|te",
    "0F|te0?T|te0@1*-GuS|te0@82|te0#&|teH1ve|teH1t6|teH1v]|teH1n|teH1wL|teH1u3tu|teH1u3ys|teH1u3t+|te",
    "H1u3zB|teH1f|teH1yX|teH1t1|teH1x.|te1[PPz)w9zg|te1@S5@H:|teH1vct6|teH1vcv]|te1%v@WA:Vu=|te1[T:[4",
    "4|tej@7U|tej[JP|te1[41&K|te1&%&K|te1@Nbz*%g|te1@2&%g|te1@Lf%g@R_|te1@Lf[8$@R_|te1wu@2&%g|tevu1@N",
    "bz*%g|tevu1@2&%g|tevu1wu@2&%g|tevu0td|tevu0ww|tevu0v0|tevu0x[|tevu0w9|tevu0wM|tevu0wt|tevu0wE|te",
    "vu0wy|tevu0xr|tevu0yb|tevu0xs|tevu0yk|tevu0yI|tevu0uq|tevu0x3|tevu0u=|tevu0x+|tevu0ue|tevu0tr|te",
    "vu0xT|tevu0vS|tevu0yK|tevu0ub|tevu0z*|tevu0%Y|tevu0%_|tevu0=x|tevu0v#|tevu0#b|tevu0xy|tevu0<F|te",
    "vu0uY|tevu0uS|tevu0uw|tevu0wI|tevu0yt|tevu0up|tevu0t]|tevu0F|tevu0?T|tevu0@1*-Gv#|tevu0@1*-GuY|t",
    "evu0@1*-GuS|tez]!7ww|tez]!7ww@5*@O@%g|te@1L1tT@H?|te@1L1u2@H?|te@1L1@w*xv-n|te@1L1[Rp<@xx|teB@(5",
    "!l|teB@Rw@S4|teB[JB@:w|teB@Rw@S4@R]@Lb|teB@Q[tr|teB%t!l|teB%t!l@3A<@80|teB%t!l@7S<@80|teB%t!l@5*",
    "<@80|te1(^?g(^=s|te1(^?g@7S|tej@v$>@Sx#0%N@R^|tej[AB&(#0%N@R^|tej@3A(Z|tejtc@IS@S6&(%N@Oxub|tej=",
    "j@IS@S6&(%N@Skub|Z-%l@4A1|c-%l@4A1|Z-%l@4A12p|c-%l@4A12p|tej[46@Ow&K|tej[ZG@Ow&K|tU0td|tU0ww|tU0",
    "v0|tU0x[|tU0w9|tU0wM|tU0wt|tU0wE|tU0z4|tU0wy|tU0[E^|tU0xr|tU0yb|tU0xs|tU0yk|tU0yI|tU0uq|tU0x3|tU",
    "0u=|tU0x+|tU0ue|tU0tr|tU0xT|tU0vS|tU0yK|tU0ub|tU0uY|tU0uS|tU0uw|tU0v#|tU0up|tU0t]|tU0!Y|tU0F|tU0",
    "yBF|tU0t6|tU0v]|tU0n|tU0wL|tU0f|tU0&8f|tU0t1|tU0wA|tUH1::ve|tUH1ve|tUH1t6|tUH1v]|tUH1n|tUH1wL|tU",
    "H1f|tUH1v*|tUH1&8v]|tUH1&8t1|tUH1fg|tU1xa|tU1tAt9|tU1y.|tU1yg|tU1@qf|tUvi1vCuY|tUvi1vCuS|tUvi1vC",
    "v#|tUvi1vCt]|tU0.]up|tUEvV|tUEt0|tUEt3|tUEtC|tUEtQ|tUEtX|tUEt=|tUEuB|tUEt?|tUEuF|tU1wZy*|tU1y*|t",
    "UB[4=|tUB@!j|tUB@o=|tUB@:.|tU0wI|tU0yt|tU0u3tu|tU0u3ys|tU0u3t+|tU0u3zB|tUH1u3tu|tUH1u3ys|tUH1u3t",
    "+|tUH1u3zB|tU0&8w9|tU0&8z4|tU0&8+Q|tU0&8=X|tUvi1&8vCue|tUvi1&8vCub|tUvi1&8vCuw|tU0@3#$MwI|tUH1@3",
    "#$M#w|tUtij@3#$M@@N|tUtij@3#$M!O(J|tU0)B%w$Mx3|tU0)B%w$M?[|tUH1)B%w$M#w|tUH1)B%w$M#G|tU1)B%w$Mti",
    "-v)|tU1)B%w$Mti-um|tU1)B%w$Mti-vo|tU1)B%w$Mti-wk|tU1)B%w$Mti-x4|tU0@1v%w$MyI|tU0@1v%w$M@B*|tU0@1",
    "v%w$M@=o|tUH1@:y$Mt6|tUH1xlyM|tUH1xln|tUH1xlyX|tU0yBtd|tU0yBww|tU0yBv0|tU0yBwM|tU0yBxy|tU0yBwy|t",
    "U0yBu=|tU0yBue|tU0yBxT|tU0yByd|tU0yBvS|tU0yBx3|tU0yBt]|tUvi1yBvCv#|tUH1yBve|tUH1yBf|tUH1yBfg|tUH",
    "1yBt2u?|tU1yBti-um|tU1yBti-vo|tU1yBti-x4|tU1yBti-y3|tU1yB@6Hti-um|tU1yB@6Hti-vo|tU1yB@6H@)kti|tU",
    "0@SH@3Jyd|tU1@SH@3Jti-x4|tUyBEvV|tUyBEt0|tUyBEt3|tUyBEtC|tUyBEtQ|tUyBEtX|tUyBEt=|tUyBEuB|tUyBEt?",
    "|tUyBEuF|tU1!(ti-v)|tU1!(ti-vo|tUH1.RF|tUH1.Rv*|tUByBt0|tUByB!n|tz50yz|tz50@19|tz50+k|tz50@1p|tz",
    "50xM|tz50@4b|tz50@0r|tz50@4C|tz50w*|tz50:E|tz50@2p|tz50#U|tz50?h|tz50wi|tz50@3L|tz50@4v|tz50:p|t",
    "z50:u|tz50.9|tz50)+|tz50@3S|tz50@2V|tz50@21|tz50?]|tz50zU|tz50@1Q|tz50%g|tz50?G|tz50@1U|tz50=e|t",
    "z50@4k|tz50@2O|tz50@28|tz50x#|tz50?5|tz50z.|tz50:0|tz50@2D|tz50=G|tz50.P|tz0yz|tz0@19|tz0+k|tz0@",
    "1p|tz0xM|tz0@4b|tz0@0r|tz0@4C|tz0w*|tz0:E|tz0@2p|tz0#U|tz0?h|tz0wi|tz0@3L|tz0@4v|tz0:p|tz0:u|tz0",
    ".9|tz0)+|tz0@3S|tz0@2V|tz0@21|tz0?]|tz0zU|tz0@1Q|tz0%g|tz0?G|tz0@1U|tz0=e|tz0@4k|tz0@2O|tz0@28|t",
    "z0x#|tz0?5|tz0z.|tz0:0|tz0@2D|tz0(0|tz0=G|tz0@KT|tz0ul+k|tz0yC|tz?$!w|t80tz?h|tz0.P|tz0(#1|tz0@N",
    "L1|UuZy6|UuZ.2|UuZy%|UuZyW|UuZ:&|UuZw5|UuZye|UuZwV|UuZ:%|UuZw3|UuZ(U|UuZ!s|UuZ!M|UuZ@0I|UuZ#^|Uu",
    "Z$+|UuZ#(|UuZ#W|UuZy?|UuZy%-y6|UuZ@45|UuZy%-yW|UuZy%-wV|UuZyW-y6|UuZw5-y%|UuZ@Ak|UuZw5-y?|UuZ@Mt",
    "|UuZye-wV|UuZ@7.|UuZwV-y6|UuZwV-y%|UuZwV-yW|UuZwV-w3|UuZwV-w3-y6|UuZwV-w3-yW|UuZwV-w3-wV|UuZwV-(",
    "U|UuZwV-w3-!M|UuZwV-!M|UuZwV-#^|UuZwV-#(|UuZwV-#W|UuZ+s|UuZ@Mu|UuZw3-y6|UuZw3-y%|UuZw3-yW|UuZw3-",
    "w5|UuZw3-ye|UuZw3-wV|UuZw3-wV-y6|UuZw3-(U|UuZw3-!s|UuZw3-!M|UuZw3-#^|UuZw3-$+|UuZw3-#(|UuZw3-#W|",
    "UuZw3-y?|UuZ@yN|UuZ@yP|UuZ@xl|UuZ@xn|UuZ%Q|UuZ!s-y6|UuZ!s-yW|UuZ!s-ye|UuZ!s-wV|UuZ!s-w3|UuZ!s-%Q",
    "|UuZ@Aj|UuZ!s-!M|UuZ!s-#^|UuZ!s-#(|UuZ!s-#W|UuZ)C|UuZ!M-!s|UuZ@yM|UuZ@yO|UuZ@xk|UuZ@xm|UuZ#^-$+|",
    "UuZ#^-y?|UuZ@yL|UuZ@xj|UuZ#W-wV|UuZ@7:|UuZ@Ta|UuZ=F|UuZy6-yW|UuZy%-w3|UuZy%-!M|UuZy%-y?|UuZyW-w5",
    "|UuZ(3|UvP(3|UvPF|UvPz0|UvPuY|UvP)?|UvP%k|UvPf|UvP&&|UvP#o|UvPt1|UvPv#|UvP@Bi|UvPyM|UvPxX|UvPn|U",
    "vP@Bn|UvPz.|UvP!j|UvPxJ|UvP#w|UvP9|UvPt6|UvPF-t1|UvPF-n|UvPuY-t1|UvPuY-xX|UvP%k-t1|UvP%k-n|UvP%k",
    "-#w|UvP&&-t1|UvP&&-n|UvPt1-%k|UvPt1-f|UvPt1-#o|UvPt1-t1|UvPt1-n|UvPxX-uY|UvPxX-)?|UvPxX-&&|UvPxX",
    "-t1|UvPxX-t6|UvPn-F|UvPn-z0|UvPn-%k-#w|UvPn-#o|UvPn-n|UvPxJ-F|UvPxJ-%k|UvPxJ-f|UvPxJ-&&|UvPxJ-#o",
    "|UvPxJ-n|UvPxJ-t6|UvP#w-n|UvP#w-#w|UvP9-n|UvPt6-F|UvPt6-uY|UvPt6-t1|UvPt6-n|UvPt6-#w|UvPt6-*4|Uv",
    "P*4|UvP*4-%k|UvP*4-n|UvP*4-t6|UvP[Us|UvPF-#w|UvPuY-n|UvP&&-uY|UvPt1-uY|UvPt1-)?|UuKy6|UuK.2|UuKy",
    "6-w3|UuKy%|UuKy%-!M|UuKy%-y?|UuKyW|UuKw5|UuKw5-y6|UuKw5-ye|UuKw5-wV|UuKw5-w3|UuKw5-#(|UuKw5-#W|U",
    "uKw5-y?|UuKye|UuKwV|UuKwV-w3|UuKw3|UuK(U|UuK!s|UuK!M|UuK#^|UuK$+|UuK#(|UuK#W|UuKy?|UuKy6-w5|UuKy",
    "6-w3-y6|UuKy%-y6|UuKy%-yW|UuKy%-w3|UuKy%-%Q|UuKy%-#(|UuKyW-y6|UuKyW-w5|UuKw5-y6-w3|UuKw5-y%|UuKw",
    "5-yW|UuKw5-yW-y?|UuK@Ak|UuKw5-ye-y6|UuKw5-ye-w3|UuKw5-wV-w3|UuKw5-wV-y?|UuKw5-+s|UuKw5-(U|UuKw5-",
    "%Q|UuKw5-$+|UuKw5-=F|UuKye-y6|UuKye-w5|UuKye-wV|UuKye-w3|UuKye-(U|UuKye-%Q|UuKye-#^|UuKye-y?|UuK",
    "@7.|UuKwV-w5|UuKwV-#W|UuKwV-y?|UuK+s|UuKw3-y6|UuKw3-yW|UuKw3-w5|UuKw3-wV|UuK%Q|UuK!s-y6|UuK!s-.2",
    "|UuK@Aj|UuK!s-$+|UuK)C|UuK)C-w3|UuK)C-%Q|UuK#W-wV|UuK@7:|UuKy?-y%|UuKy?-w5|UuKy?-ye|UuKy?-wV|UuK",
    "=F|UuKy6-y%|UuKy6-wV|UuKy6-#^|UuKy6-$+|UuKy6-y?|UuK@45|b4t]|b4$m|b4yG|b4(6|b4@2B|b4x#|b4zA|b4@]6",
    "|b4uw|b4!u|b4w!|b4?U|b4@2q|b4x%|b4#!|b4@8U|b4)f|b4@@z|b4@@x|b4@L%|b4@@w|b4@@v|b4@@y|b4@L&|b4ub|b",
    "4x]|b4y]|b4@8W|b4@8k|b4y[|b4z$|b4@2[|b4[Wc|b4[Wi|b4[Wg|b4[Wd|b4[Wf|b4[We|b4[Wh|b4[Wj|b4uS|b4!7|b",
    "4#D|b4@00|b4@02|b4#X|b4zg|b4@SI|b4up|b4z)|b4!9|b4@3u|b4*(|b4!h|b4zV|b4@A)|b4wI|b4%W|b4:y|b4@Sm|b",
    "4@3%|b4y1|b4(R|b4@AR|b4#%|b4?_|b4?^|b4@9%|b4[M+|b4@3f|b4@3g|b4[NG|b4[Ni|b4@Ro|b4[Nj|b4@Rn|b4@Rm|",
    "b4[M=|b4[N1|b4[M^|b4[M?|b4[M]|b4[M[|b4[M_|b4[N2|b4[N6|b4[N3|b4[N5|b4[N4|b4vS|b4!l|b4#]|b4@16|b4.",
    "Y|b4%8|b4&U|b4@IZ|b4xU|b4.I|b4):|b4@V9|b4+9|b4$x|b4)A|b4[eC|b4uq|b4z+|b4!#|b4.5|b4:?|b4xv|b4tG|b",
    "4@BW|b4wM|b4@6N|b4@1T|b4@5+|b4@It|b4)L|b4&X|b4@6R|b4%a|b4[gB|b4%b|b4[f&|b4[f+|b4=C|b4@Vm|b4[g4|b",
    "4[gF|b4[gJ|b4[gG|b4[gI|b4[gH|b4ue|b4zC|b4yU|b4:V|b4@8@|b4yT|b4xo|b4@38|b4wy|b4@9I|b4%v|b4@Q8|b4@",
    "Q9|b4@9G|b4)p|b4[Gx|b4z9F|b4z9n|b4z9t6|b4z9ve|b4z9yX|b4z9f|b4z9t1|b4z9v#|b4td|b4z]|b4zS|b4@2R|b4",
    "@7[|b4!O|b4z#|b4[2F|b4@89|b4@2l|b4@2j|b4@NH|b4@2k|b4@8A|b4[3B|b4[39|b4[36|b4[38|b4[37|b4[3A|b4[3",
    "C|b4[3G|b4[3D|b4[3F|b4[3E|b4v#|b4(e|b4!j|b4@0g|b4@4e|b4z.|b4zj|b4[fL|b4*!F|b4*!n|b4*!t6|b4*!ve|b",
    "4*!yX|b4*!f|b4*!t1|b4xy|b4&+|b4(g|b4@V_|b4@0q|b4#a|b4&*|b4[jI|b4#b|b4@B[|b4@B=|b4[ie|b4@4w|b4%5|",
    "b4@B@|b4[i#|b4uY|b4xJ|b49|b4=D|b4=E|b4#o|b4xX|b4[hN|b4u=|b4$1|b4$0|b4@JK|b4.p|b4#7|b4#M|b4@(b|b4",
    "xs|b4@Je|b4@Jd|b4@JY|b4@%B|b4@Ja|b4@6a|b4@%Z|b4wE|b4+r|b4*Z|b4@MY|b4:B|b4&f|b4(8|b4@Mm|b4v0|b4$j",
    "|b4#0|b4==|b4=?|b4(!|b4%p|b4@=^|b4@Ll|b4@Lo|b4@?o|b4@Ln|b4@Lm|b4.?|b4@LP|b4@LM|b4@=0|b4@=4|b4@7J",
    "|b4@LN|b4@=O|b4x3|b4@B6|b4.E|b4@0Q|b4@0R|b4yO|b4#l|b4@B8|b4wt|b4@1S|b4!m|b4@Iy|b4@1P|b4!]|b4&?|b",
    "4@yj|b4xT|b4[Kt|b4!.|b4@Q=|b4[Kl|b4@9j|b4(J|b4[Kw|b4z*|b4@4R|b4.G|b4[Zt|b4@Um|b4%(|b4@4Q|b4[Z(|b",
    "4[ag|b4[ao|b4[ak|b4[ah|b4[aj|b4[ai|b4[am|b4[an|b4yd|b4)b|b4(0|b4@1(|b4+g|b4&d|b4(5|b4@K^|b4tr|b4",
    "&J|b4xi|b4:g|b4)q|b4x_|b4$P|b4?[|b4[QI|b4:U|b4@.e|bX=@PH#Sj|bXH#Sj|bX=@j|by*j|b[fS|bxhwJ|bx0|b&v",
    "|bzY|b[L%zY|b!6j|b?$!w|bEt0|bEt3|bEtC|bEtQ|bEtX|bEt=|bEuB|bEt?|bEuF|bVvv|bVws|bVx)|bVz!|bVz8|bV#",
    "j|bVzN|bV%D|bVy&|bVuE|bVvvux|b4@3y@2[|b4@2]|b4@PD|b4@8&|b4@3y@IZ|b4@Ib|b4@Ia|b4@wE|b4@3y@K^|b4@L",
    "1|b4@L0|b4@.c|b4@3y?[|b4@3d|b4@RX|b4@9$|b%&j[hM|b%&j@Jo|b%&j@S1|b%&jv:@S1|b%&j@&M|b%&j[1D|b%&j@y",
    "J|b%&j@L(|b%&j@Jo-@L(|b%&j[2+|t!0F|t!0f|t!0t6|t!0t1|t!0n|t!0v5|t!0v0|t!0td|t!0(!|t!0#0|t!0%p|t!0",
    "$j|t!0@Lk|t!0t]|t!0x#|t!0yG|t!0zA|t!0$m|t!0@2G|t!0uw|t!0x%|t!0w!|t!0#!|t!0!u|t!0@N)|t!0ub|t!0y[|",
    "t!0y]|t!0z$|t!0x]|t!0ue|t!0@7e|t!0@8(|t!0yT|t!0yU|t!0xo|t!0zC|t!0@9E|t!0@Rg|t!0@Rh|t!0@Ri|t!0@9*",
    "|t!0@9+|t!0@Rl|t!0up|t!0tt|t!0!h|t!0!9|t!0zV|t!0z)|t!0@A(|t!0u=|t!0uq|t!0#7|t!0xv|t!0$0|t!0!#|t!",
    "0#M|t!0$1|t!0@K1|t!0@1o|t!0@BD|t!0@BE|t!0@BG|t!0@BH|t!0@BI|t!0@UR|t!0z*|t!0%(|t!0.G|t!0@4Q|t!0@4",
    "R|t!0@Ur|t!0v#|t!0z.|t!0!j|t!0zj|t!0(e|t!0@Vl|t!0uY|t!0#o|t!09|t!0xX|t!0xJ|t!0@V:|t!0?e|t!30#o|t",
    "!309|t!30xX|t!30xJ|t!30@V:|t!30?e|KL$(|KLf|KL@G(|KLt6|KLv]|KLt1|KLx.|KLu?-uPx.|KLtqyX|KLtqt6|KLF",
    "|KLve|KLz.|KLu7-uPz.|KL!j|KLu7-uP!j|KL@Vb|KLu7-uP@Vb|KLzj|KLu7-uPzj|KL@0j|KLu7-uP@0j|KL%O@0j|KLv",
    "#|KLu7-uPv#|KL@0g|KLu7-uP@0g|KL%O@0g|KLv*|KLu?-uPv(|KLz9wJ|KLt2v6|KLt2wC|KLt2ywt(uk|KLt2xxt(uk|K",
    "Lt2Zt(uk|KLt2uk|KLt2iv6|KLt2iv:tJ@Ax|KLt2tRtA|KLt2v:t*tM|KLt2ts|KLt2t$zF|KLxM|KLw*|KLwi|KLyz|KLx",
    "_|KL[J3|KLxi|KL(@|KL$P|KL??|KLu?-uP??|KLtq@2B|KLtqyG|KLtr|KL:g|KL@9$|KLu7-uP@9$|KL@3d|KLu7-uP@3d",
    "|KL@RY|KLu7-uP@RY|KL%w|KLu7-uP%w|KL@RZ|KLu7-uP@RZ|KL?[|KLu7-uP?[|KL@9#|KLu7-uP@9#|KLu?-uP@9#|KLv",
    "Q|KLu7-uPvQ|KLtqvB|KLxv|KL[XE|KL!#|KL[Yj|KLtG|KL:]|KLu?-uP:]|KLtq.p|KLtq$0|KLuq|KL.5|KL@0b|KLu7-",
    "uP@0b|KL@U(|KLu7-uP@U(|KL@U)|KLu7-uP@U)|KLt3|KLu7-uPt3|KL@U*|KLu7-uP@U*|KL@BW|KLu7-uP@BW|KL@BX|K",
    "Lu7-uP@BX|KL%O@BX|KLu]|KL@0X|KL@Ux|KL@BU|KLxr|KL!O|KL[0d|KLzS|KL[1!|KLz#|KL?Q|KLu?-uP?Q|KLtd|KL@",
    "2R|KL@2k|KLu7-uP@2k|KL@2l|KLu7-uP@2l|KL@NI|KLu7-uP@NI|KL@NJ|KLu7-uP@NJ|KL@NK|KLu7-uP@NK|KL@89|KL",
    "u7-uP@89|KL@2j|KLu7-uP@2j|KL%O@2j|KLv3|KL@88|KLvU-@3]@7]|KLvU-@3][1z|KLvU-@3][2K|KLvU-@3]@Mr|KL)",
    "L|KL@wn|KL@1T|KL@yv|KL&X|KL@6G|KLu?-uP@6G|KLwM|KL@5+|KL@JC|KLu7-uP@JC|KL@6T|KLu7-uP@6T|KL@JD|KLu",
    "7-uP@JD|KL@JE|KLu7-uP@JE|KL@JF|KLu7-uP@JF|KL@6R|KLu7-uP@6R|KL@6S|KLu7-uP@6S|KL%O@6S|KLtb|KL$s%1|",
    "KLy[|KL[7u|KLy]|KL[9(|KLz$|KL@8w|KLu?-uP@8w|KLub|KL@8W|KL@8&|KLu7-uP@8&|KL@2]|KLu7-uP@2]|KL@PE|K",
    "Lu7-uP@PE|KL@PF|KLu7-uP@PF|KL@PG|KLu7-uP@PG|KL@2[|KLu7-uP@2[|KL@8%|KLu7-uP@8%|KL%O@8%|KLuz|KLu7-",
    "uPuz|KL[9x|KL@Hguz|KL$suz|KLyT|KL[B$|KLyU|KL@Pt|KLxo|KL@98|KLu?-uP@98|KLue|KL:V|KL@Q2|KLu7-uP@Q2",
    "|KL@38|KLu7-uP@38|KL@9F|KLu7-uP@9F|KL%O@9F|KLu5|KLtq#$|KL[Dz|KLx%|KL[3d|KLw!|KL[4h|KL#!|KL:Q|KLu",
    "?-uP:Q|KLuw|KL?U|KL@N+|KLu7-uP@N+|KL@N.|KLu7-uP@N.|KL@N:|KLu7-uP@N:|KL@N=|KLu7-uP@N=|KL@N?|KLu7-",
    "uP@N?|KL@8U|KLu7-uP@8U|KL@N*|KLu7-uP@N*|KLt+|KLu7-uPt+|KLvCt+|KL!h|KL[R0|KL!9|KL@0F|KLzV|KL@0H|K",
    "Lu?-uP@0H|KLup|KL@3u|KL@Tz|KLu7-uP@Tz|KL@T#|KLu7-uP@T#|KL@T$|KLu7-uP@T$|KL@T%|KLu7-uP@T%|KL@T&|K",
    "Lu7-uP@T&|KL@A)|KLu7-uP@A)|KL@A*|KLu7-uP@A*|KL%O@A*|KLtt|KL@Hgtt|KL@Tx|KL$Ctt|KL[AW-uP[Tm|KL%O[T",
    "s|KL%Ott-v(|KL%O[Ul|KL%O[Vp|KL%O[Tt|KL%O[R$|KLy1|KL:y|KL@3(|KL(R|KL@AO|KLwI|KL@Sm|KL+^|KLu7-uP+^",
    "|KL@S)|KLu7-uP@S)|KL@S*|KLu7-uP@S*|KL@S+|KLu7-uP@S+|KL@S.|KLu7-uP@S.|KL@AR|KLu7-uP@AR|KL@S(|KLu7",
    "-uP@S(|KL+?|KL#o|KL[gh|KL9|KL[hI|KLxX|KL@4p|KLu?-uP@4p|KLuY|KL=D|KL@V=|KLu7-uP@V=|KL@V?|KLu7-uP@",
    "V?|KL@V@|KLu7-uP@V@|KL@V[|KLu7-uP@V[|KL@V]|KLu7-uP@V]|KL@B*|KLu7-uP@B*|KL@B+|KLu7-uP@B+|KL%O@B+|",
    "KLu?|KL@u]-uPu?|KLu7-uPu?|KL$s9|KL#X|KLtu-uP#X|KLu7-uPx%|KL[OF|KL#D|KL@3r|KLzg|KL@SB|KLu7-uP#!|K",
    "LuS|KL@00|KLu7-uPuw|KL@SJ|KLu7-uP@SJ|KLtu|KLu7-uPtu|KLvCtu|KL&d|KL@+8|KL(0|KL@+q|KL(5|KL@75|KLyd",
    "|KL@1(|KL@K_|KLu7-uP@K_|KLuV|KLyO|KLu5-uPyO|KL.E|KLu5-uP.E|KL@B2|KLu5-uP@B2|KL#l|KL@B3|KLx3|KL@0",
    "Q|KL@B9|KLu7-uP@B9|KL%1|KL@Uv|KL@Uw|KL@4S|KLyb|KL[Z.|KL[ad|KL[ae|KL[af|KL[ab|KL*sx#|KL*syG|KL*s@",
    "L)|KL*szA|KL*s?6|KL*st]|KL*s(6|KL*svB|KL[GLvB|KL@[1|KL[Mz|KL?^|KL@Rd|KL@3g|KL@9)|KL#%|KL@9%|KLx6",
    "|KL@UO|KL@UP|KL@UQ|KL@BF|KLu7-uP#X|KLu7-uP#D|KLu7-uPzg|KLu7-uPuS|KL[C[|KL@32|KL[DV|KL+%|KL[Dk|KL",
    "w9|KL@31|KL#$|KL[E*|KL$sy1|KL$s:y|KL$s(R|KL$swI|KL&O-uPyO|KL&O-uP.E|KL&O-uP#l|KL&O-uPx3|KL&O-uP%",
    "1|KL@Nm|KL[4R|KL@Nn|KL[4S|KL*d|KL@Nl|KL@8M|KL%1-uPyO|KL%1-uP.E|KL%1-uP@B2|KL%1-uP#l|KL%1-uP@B3|K",
    "L%1-uPx3|KL%1-uP@0Q|KL%1-uP%1|KL@pGt4|KL$Cf|KL$Ct6|KL$Ct1|KL$CF|KL$Cz.|KL$C!j|KL$Czj|KL$Cv#|KL$C",
    "yT|KL$CyU|KL$Cxo|KL$Cue|KL$C!O|KL$CzS|KL$Cz#|KL$Ctd|KL$sx#|KL$syG|KL$szA|KL$st]|KLtq@=n|KLtq@LU|",
    "KLtq$I|KLtq@=a|KLtq@=j|KLtqx[|KLtq!7|KLtqzg|KLtq#X|KLtq@02|KLtq#D|KLtquS|KLtq(e|KLtqzj|KLtqz.|KL",
    "tq@4e|KLtq!j|KLtqv#|KLtq@]m|KLtq@]l|KLtq@7j|KLtq@]j|KLtq@]k|KLtq@]h|KLtq@B6|KLtq#l|KLtqyO|KLtq@0",
    "R|KLtq.E|KLtqx3|KLtq[a3|KLtq@BU|KLtq@0X|KLtq[Z+|KLtq@Ux|KLtqxr|KLtq&J|KLtq$P|KLtqx_|KLtq)q|KLtqx",
    "i|KLtqtr|KLtqvQ|KLtq$j|KLtq%p|KLtq(!|KLtq=?|KLtq#0|KLtqv0|KLtq[1l|KLtq&h|KLtq@7_|KLtq[1c|KLtq@2W",
    "|KLtqww|KLtq[24|KLtq[23|KLtq[20|KLtq[21|KLtq[22|KLtq@82|KLtq@2a|KLtqzC|KLtqxo|KLtqyT|KLtq@8@|KLt",
    "qyU|KLtque|KLtqx]|KLtqz$|KLtqy[|KLtq@8k|KLtqy]|KLtqub|KLtqxJ|KLtqxX|KLtq#o|KLtq=E|KLtq9|KLtquY|K",
    "Ltq+r|KL$s+r|KLtq(8|KLtq&f|KLtq:B|KLtq*Z|KL$s*Z|KLtqwE|KLtq@Mh|KLtq@Mg|KLtq@_p|KLtq@_q|KLtq@Me|K",
    "Ltq?H|KLtq!u|KLtq#!|KLtqx%|KLtq@2q|KLtqw!|KLtquw|KLtq@&&|KLtq@&%|KLtq@&y|KLtq@&z|KLtq@&$|KLtq@1o",
    "|KLtq[4T|KLtq@Nn|KLtq[4P|KLtq[4Q|KLtq@Nm|KLtq*d|KLtq[Y(|KLtq@UQ|KLtq@UO|KLtq[Y%|KLtq@UP|KLtq@BF|",
    "KLtq@BI|KLtq@BH|KLtq@BE|KLtq[Y$|KLtq@BG|KLtq@BD|KLtq&+|KLtq&*|KLtq#a|KLtq@0q|KLtq(g|KLtqxy|KLtqv",
    "R|KLtqtcvR|KLtq@K8|KLtq@K7|KLtq*M|KLtq@K3|KLtq@K5|KLtq%_|KLtqz)|KLtqzV|KLtq!h|KLtq*(|KLtq!9|KLtq",
    "up|KLtq%W|KLtq(R|KLtqy1|KLtq@3%|KLtq:y|KLtqwI|KLtq+?|KLtq@4R|KLtq@4Q|KLtq%(|KLtq@Um|KLtq.G|KLtqz",
    "*|KLtq@1S|KLtq&?|KLtq!]|KLtq@1P|KLtq!m|KLtqwt|KLtq[a1|KLtq[a0|KLtq[Z]|KLtq[Z^|KLtq[Z_|KLtq[Z[|KL",
    "!m1|KLxhwJ|KL@Rb|KL[C^|KL[E:|KL[E=|KL[E?|KL[E@|KL[E+|KL[E.|KL&O-uP[YW|KL&O-uP[YX|KL&O-uP[YY|KL&O",
    "-uP[YZ|KL&O-uP[Ya|KL&O-uP@B8|KL&O-uP@B9|KL&O-uPt2%1|KL$Cv(|!2#Yj|!20@uw|!20[5H|!20@+W|!20[R5|!20",
    "[E0|!20[bK|!20@$+|!20[Yr|!20@!W|!20@xd|!20[Ax|!20@?C|!20[D5|!20[VZ|!20[P?|!20@pC|!20@QS|!20).|!2",
    "0@)C|!20@_0|!20@)B|!20vM|!20[bZ|!20@^W|!20@)D|!20[KG|!2@1)j|!2vc@1)j|vf0@+b@+e&duV|vf0v5|vf0[b@)",
    ".n|vf0@0p|vf0u?|vf0v(|vf0[YT[YU+2|vf0*P|vf0@p?F|vf0@QXt1|vf0@0?F|vf0@H1|vf0ug-)I-@QYt1|vf0v:-)*-",
    "@QYt1|vf0t1|vf0yM|vf0wi|vf0[OS@3j[Ovtu|vf0[0?|vf0@xh|vf0[0=v3|vf0u[|vf0&b|vf0@:z@?wu[|vf0z?|vf0[",
    "fk@4jv(|vf0@?^vB|vf0@??vB|vf0ug-)I-@LrvB|vf0v:-)*-@LrvB|vf0[B][Gb@PRu5|vf0v:-)*-@PRu5|vf0yF-u5|v",
    "f0@_9*X@_Ct6|vf0f|vf0@_Yvt|vf0@:?|vf0ug-)I-*3z0|vf0v:-)*-*3F|vf0@_G@)z|vf0[KU[KPvQ|vf0@pT@)!|vf0",
    "[UDtt|vf0[TXug-)I-@THtt|vf0v:-)*-@THtt|vf0tb|vf0vR|vf0[Yz.F@U.u]|vf0v:-)*-@U.u]|vf0tV|vf0@u%@u#@",
    "I9t4|vf0v:-)*-@I9t4|vf0yF-vQ|vf0uj-vQ|vf0@)R(tf|vf0[8A#Uuz|vf0ug-)I-@Oguz|vf0v:-)*-@Oguz|vf0[3][",
    "3s[4[t+|vf0yF-t+|vf0@^$|vf0@7q|vf0@$$@$ytV|vf0[Is@)]t1|vf0+b|vf0@_2|vf0@#Z|vf0@wy|vf0@xY|vf0[VA|",
    "vf0ug-)I-@0p|vf0v:-)*-@0p|vf0@^N-@0p|vf0x6|vf0vj|vfvmv1|vf&9v1|vfxgv1|vf@qPB|vf[aVB|vf@uxB|vf0v3",
    "|vf0+?|vf0x.|vf0=.=d@QX|vf0=.=d*X|vf0=.=d(t|vf0=.=d@0?|vf0=.=d@H1|#F0F|#F0t6|#F0n|#F0td|#F0v0|#F",
    "0w9|#F0uq|#F0u=|#F0ue|#F0tr|#F0vS|#F0ub|#F0uY|#F0uS|#F0uw|#F0v#|#F0up|#F0t]|#FH1t6|#FH1n|#F1yg|#",
    "F1@Qm|#F0yiuS|#f0F|#f0t6|#f0n|#f0td|#f0v0|#f0w9|#f0uq|#f0u=|#f0ue|#f0tr|#f0vS|#f0ub|#f0uY|#f0uS|",
    "#f0uw|#f0v#|#f0up|#f0t]|#fH1t6|#fH1n|#f1@Qm|@Q?vmv1|@Q?iv1|#r0F|#r0t6|#r0n|#r0td|#r0v0|#r0w9|#r0",
    "uq|#r0u=|#r0ue|#r0tr|#r0vS|#r0ub|#r0uY|#r0uS|#r0uw|#r0v#|#r0up|#r0t]|#rH1t6|#rH1n|$U0F|$U0t6|$U0",
    "n|$U0td|$U0v0|$U0w9|$U0uq|$U0u=|$U0ue|$U0tr|$U0vS|$U0ub|$U0uY|$U0uw|$U0v#|$U0up|$UH1t6|$UH1n|u40",
    "td|u40ww|u40z#|u40&h|u40+%|u40wM|u40wt|u40&X|u40&?|u40)p|u40u=|u40yb|u40#M|u40@4S|u40[E]|u40uq|u",
    "40x3|u40tG|u40#l|u40xo|u40vS|u40xT|u40$P|u40(J|u40z$|u40xX|u40zg|u40#!|u40)A|u40wI|u40@Am|u40up|",
    "u40t]|u40uw|u40#%|u4#1H[M&|u4#1H@9%|u4#1H?^|u4#1H@Rd|u4#1H?_|u4#1H[NX|u4#1H@9+|u4#1H[Ng|u4#1H@SK",
    "|u4#1H[QO|u4#1H@8V|u4#1H[5d|u4#1H@3f|u4#1H@Rb|u4#1H@9)$Xt0|u4#1H@9)$Xt3|u4#1H[M)|u4H@MN=T|u4H@MN",
    "ve|u4H1ve|u4H1t6|u4H1v]|u4H1u?|u4H1@B.|u4H1n|u4H1wL|u4H1=2|u4H1yM|u4H1uY|u4H1$n|u4H1f|u4H1z0|u4H",
    "1v*|u4H1x.|u4H1wA|u41[D@|u41[Ol|u41[hn|u41[B4|u41[ZV|u41@u0|u41[PV|u41[Y:|u41[0o|u41@p8|u41[RR[R",
    "W|u41[d#|u41@!T|u41@uD|u41[1Z|u41@u5|u41@w#(@[2@|u41(D:]|u41@u(|u41[Ko@P9|u41[2Q|u4&]B[PA|u41@r3",
    "|u41@q+|u4EvV|u4Et0|u4Et3|u4EtC|u4EtQ|u4EtX|u4Et=|u4EuB|u4Et?|u4EuF|u4B(D(k[U3|u4B(D(k*m|u4B(D(k",
    "(@|u4B(D(k*8|u4B(D(k*B|u4B(D(k$q|u4B(D(k$q-*m|u4B(D(k$q-(@|u4B(D(k$q-*8|u4B(D(k$q-*B|t#%d|t#*N|t",
    "#x0|t#xhwJ|t#zY|t#tQp|t#!B%#$(|t##E4@vd*j|t##gx0|t##gxhwJ|t#[E2|t#=:tItHt0|t#=:tItHt3|t#=:tItHtC",
    "|t#H!w|t#=:tItHtQ|t#EvV|t#Et0|t#Et3|t#EtC|t#EtQ|t#EtX|t#Et=|t#EuB|t#Et?|t#EuF|t#0F|t#0f|t#0t6|t#",
    "0t1|t#0n|t#0yM|t#0#G|t#0yX|t#0ue|t#0%:|t#0vS|t#0tr|t#0#%|t#0v0|t#0ub|t#0uw|t#0up|t#0wI|t#0uq|t#0",
    "u=|t#0wt|t#0wE|t#0uY|t#0uS|t#0v#|t#0yd|t#0td|t#0ww|t#0z*|t#0xy|t#0(6|t#0[j7|t#0*d|t#0@B=|t#0!m|t",
    "#0!BugH1|t#0!Bf|t#0!Bt6|t#0!Bt1|t#0!Bn|t#0!ByM|t#0!B#G|t#0!B%:|t#0!BvS|t#0!Btr|t#0!B#%|t#0!Bv0|t",
    "#0!Bub|t#0!Buq|t#0!Bu=|t#0!Bwt|t#0!BwE|t#0!Bz*|t#0!BuY|t#0!Bv#|t#0!Btd|t#0!B==|t#0!B(6|t#0!B@_g|",
    "t#0!B[D&|t#0!B%_|t#0#Ef|t#0#Et6|t#0#E@7!|t#0#E#G|t#0#En|t#0#E%:|t#0#Etd|t#0#Ev0|t#0#Et]|t#0#Etr|",
    "t#0#EwI|t#0#Euq|t#0#Eu=|t#0#EwE|t#0#Eyd|t#0#E==|t#0#E(6|t#0#Ez*|t#0#Exy|t#0#E@00|t#0#Ewt|t#0#E#b",
    "|t#0#gt6|t#0#gtd|t#0#guS|t#0#gyd|t#0#g#b|t#0wt2t3p|t#0yQyRxat0|t#0yQyRy.t0|t#0yQyR@$=|t#0yQyR@U?",
    "|t#0yQyRwu@U?|t#0yQyR@H!|t#0yQyRtC@H!|t#0yQyRF|t#0yQyRt6|t#0yQyRtd|t#0yQyRw9|t#0yQyRwM|t#0yQyRxr",
    "|t#0yQyRyb|t#0yQyRxs|t#0yQyRyI|t#0yQyRuq|t#0yQyRu=|t#0yQyRtr|t#0yQyRxT|t#0yQyRyt|t#0yQyR#b|t#0yQ",
    "yRxy|t#0yQyR&R|t#0!ByQyRuq|t#0!ByQyR#b|t#0#gyQyRx[|t#0#gyQyRw9|t#0#gyQyRwM|t#0#gyQyRz4|t#0#gyQyR",
    "xr|t#0#gyQyRyk|t#0#gyQyRuq|t#0#gyQyRx+|t#0#gyQyRyt|t#0#gyQyR@JH|t#0#gyQyR#b|t#0#gyQyRxy|t#0yQyRt",
    "(n|t#0yQyRt(uY|t#0#gyQyRyK|t#0yQyR@$#|t#0#gyQyR*d|KL@9V|KL&S|KL@G*|KL+C|KL[Lv|KL[K1|KL[Mk|KL[Xp|",
    "KL@7@|KL[31|KL@Or|KL[FE|KL[C2|KL[3_|KL[UF|KL@SX|KL@S!|KL[Se|KL[TH|KL[hW|KL@Vx|KL@9?|KL@Q3|KL&q@Q",
    "3|KL@Q4|KL&q@Q4|KL@Q5|KL&q@Q5|KL@Q6|KL&q@Q6|KL[QD|KL[QE|KL[QF|KL[QG|KL[QH|KL@SI|KL&qvQ|KL&qu]|KL",
    "&qv3|KL&qtb|KL&quz|KL&qu5|KL&qtt|KL&q+?|KL@1vv(|KL)Bv(|KLt23uk|KLt2zLtA|KLtu-uP[QC|KLu7-uP:Q|KLu",
    "7-uP?U|KL[YV|KL@B8|KL[Z@|KL[Z=|KL@BT|KL[Y)|KL[Y&|KL$s+^|KL$s@AO|KL$s?6|KLtq@?p|KLtq@6d=?|KLtq==|",
    "KLtq@Ll|KL$s[0H|KLtq@Mm|KL@5s@6dt+|KL@5s@6dtu|KLtq@6ett|woH-tq0|wo0td|wo0ww|wo0v0|wo0x[|wo0w9|wo",
    "0wM|wo0wt|wo0wE|wo0z4|wo0@Vs|wo0uq|wo0x3|wo0u=|wo0x+|wo0ue|wo0tr|wo0xT|wo0vS|wo0yK|wo0ub|wo0uY|w",
    "o0uS|wo0uw|wo0v#|wo0wI|wo0yt|wo0up|wo0t]|wo0@?t|wo0@BK|woH1F|woH1t6|woH1n|woH1yX|woH1v*|woH1x.|w",
    "oH1wA|woH1f|woH1t1|wovu0uY|wovu0uS|wovu0v#|wo30td|wo30w9|wo30xa|wo30uq|wo30ue|wo30tr|wo30ub|wo30",
    "uS|wo30uw|wo1[A!|wo1[1C|wo1up-t6|wo1:Q|wo!nj|wo!6j|woEvV|woEt0|woEt3|woEtC|woEtQ|woEtX|woEt=|woE",
    "uB|woEt?|woEuF|t5x%0td|t5x%0%a|t5x%0w9|t5x%0z*|t5x%0up|t5x%0uY|t5x%0uq|t5x%0x3|t5x%0uw|t5x%0tr|t",
    "5x%0xT|t5x%0ub|t5x%0yd|t5x%0xU|t5x%0t]|t5x%0#%|t5x%0ww|t5x%0%Y|t5x%0ue|t5x%0F|t5x%0t6|t5x%0yX|t5",
    "x%0(t|t5x%0n|t5x%0x.|t5x%0t1|t5x%0#G|t5x%0f|t5x%0@Hi|t5x%0v*|t5x%0ti-um|t5x%0ti-vo|t5x%0ti-wk|t5",
    "x%0ti-x4|t5x%0ti-y3|vlt5vq0uA#%|vlt5vq0t_#%|vlt5vq0uAtd|vlt5vq0uA%a|vlt5vq0uAw9|vlt5vq0t_td|vlt5",
    "vq0t_%a|vlt5vq0t_w9|vlt5vq0uAz*|vlt5vq0uAup|vlt5vq0uAuY|vlt5vq0t_z*|vlt5vq0t_up|vlt5vq0t_uY|vlt5",
    "vq0uAuq|vlt5vq0uAx3|vlt5vq0uAue|vlt5vq0t_uq|vlt5vq0t_x3|vlt5vq0t_ue|vlt5vq0uAtr|vlt5vq0uAxT|vlt5",
    "vq0uAub|vlt5vq0t_tr|vlt5vq0t_xT|vlt5vq0t_ub|vlt5vq0uAyd|vlt5vq0uAxU|vlt5vq0uAuw|vlt5vq0t_yd|vlt5",
    "vq0t_xU|vlt5vq0t_uw|vlt5vq0uAt]|vlt5vq0uAu=|vlt5vq0uAvS|vlt5vq0t_t]|vlt5vq0t_u=|vlt5vq0t_vS|vlt5",
    "vq0uA@NG|vlt5vq0uA@Vn|vlt5vq0t_@NG|vlt5vq0t_@Vn|vlt5vq0uA@Az|vlt5vq0t_@Az|vlt5vqH1H[S)|vlt5vqH1v",
    "e|vlt5vqH1v]|vlt5vqH1n|vlt5vqH1wL|vlt5vqH1f|vlt5vqH1z0|vlt5vqH1t1|vlt5vqH1?u|vlt5vqH1#G|vlt5vqH1",
    "&S|vlt5vqH1@G*|vlt5vqH1@V7|vlt5vqH1@9V|vlt5vqH1@QG|vlt5vqH1[bW|vlt5vqH1@7!|vlt5vq0t2v5|vlt5vq0t2",
    "#$|vlt5vq0t2u5|vlt5vq0t2uz|vlt5vq0t2v3|vlt5vq0t2tV|vlt5vq0t2t4|vlt5vqtij-v)|vlt5vqtij-um|vlt5vqE",
    "vV|vlt5vqEt0|vlt5vqEt3|vlt5vqEtC|vlt5vqEtQ|vlt5vqEtX|vlt5vqEt=|vlt5vqEuB|vlt5vqEt?|vlt5vqEuF|vlt",
    "5vquIEt0|vlt5vq1@NN|vlt5vq1[3r|u4B[J[|u4B*m%K|u4B(@%K|u4B*8%K|u4B*B%K|u4B$q%K|u4B$q-*m%K|u4B$q-(",
    "@%K|u4B$q-*8%K|u4B$q-*B%K|u4B%]%K|u4B%]-*m%K|u4B%]-(@%K|u4B%]-*8%K|u4B%]-*B%K|u4B%]-$q%K|u4B[aQ|",
    "u4B*m%T|u4B(@%T|u4B*8%T|u4B*B%T|u4B$q%T|u4B$q-*m%T|u4B$q-(@%T|u4B$q-*8%T|u4B$q-*B%T|u4B%]%T|u4B%",
    "]-*m%T|u4B%]-(@%T|u4B%]-*8%T|u4B%]-*B%T|u4B%]-$q%T|zy0td|zy0v0|zy0w9|zy0@Pm|zy0tr|zy0vS|zy0ub|zy",
    "0@P7|zy0uq|zy0u=|zy0ue|zy0@99|zy0wM|zy0wE|zy0wy|zy0[Ga|zy0uY|zy0uS|zy0uw|zy0xU|zy0up|zy0F|zy0t]|",
    "zyH1t6|zyH1n|zyH1f|zyH1t1|zyH1z0|zy[JN|zyzmtSy*|t5uI0uAtd|t5uI0uAww|t5uI0uA@8A|t5uI0t_td|t5uI0t_",
    "@8A|t5uI0t_ww|t5uI0w9|t5uI0uAwM|t5uI0uAwt|t5uI0t_wM|t5uI0t_up|t5uI0t_wt|t5uI0wy|t5uI0[Od|t5uI0uA",
    "@9=|t5uI0u=|t5uI0t_@9=|t5uI0@Ru|t5uI0uAuq|t5uI0uAx3|t5uI0t_uq|t5uI0t_x3|t5uI0ue|t5uI0vS|t5uI0uAt",
    "r|t5uI0uAxT|t5uI0uAyd|t5uI0t_tr|t5uI0t_yd|t5uI0t_xT|t5uI0ub|t5uI0t_uY|t5uI0uAuY|t5uI0uS|t5uI0[P:",
    "|t5uI0uw|t5uI0vq|t5uI0v#|t5uI0uAwI|t5uI0uAyt|t5uI0uAup|t5uI0uAt]|t5uI0!Y|t5uI0F|t5uI0t_t]|t5uI0t",
    "6|t5uI0v]|t5uI0n|t5uI0wL|t5uI0yX|t5uI0x.|t5uI0@NN|t5uI0.]up|t5uIvi1vCuS|t5uIvi1vCuw|t5uIvi1uw[XY",
    "@2n|t5uI1#T@2S@2n|t5uIvi1t2w9|t5uIvi1t_tr|t5uIvi1uA@9=vMt_tr|t5uIvi1ub|t5uIvi1vS|t5uIvi1up|t5uI1",
    "[RD|t5uIH1F|t5uIH1#T@A6|t5uIH1ve|t5uIH1::ve|t5uIH1t6|t5uIH1v]|t5uIH1#G|t5uIH1@Bc|t5uIH1n|t5uIH1w",
    "L|t5uIH1t1|t5uIH1?ut9|t5uIH1@9V|t5uIH1f|t5uIH1z0|t5uIH1x.|t5uIH1v*|t5uIH1uIv*|t5uIH1?ug|t5uI1#T@",
    "2S|t5uI1ti-v)|t5uI1ti-um|t5uI1@2Xti-vo|t5uI1@2Xti-wk|t5uI1@2Xti-x4|t5uI1uS@?.|t5uI1#T@A5|t5uI1@2",
    "X-vq[0!|t5uIX)StA|t5uI($EvV|t5uI($Et0|t5uI($Et3|t5uI($EtC|t5uI($EtQ|t5uI($EtX|t5uI($Et=|t5uI($Eu",
    "B|t5uI($Et?|t5uI($EuF|t5uIuIEvV|t5uIuIEt0|t5uIuIEt3|t5uIuIEtC|t5uIuIEtQ|t5uIuIEtX|t5uIuIEt=|t5uI",
    "uIEuB|t5uIuIEt?|t5uIuIEuF|t5uI1[f9|t5uI1[fA|t5uI1[Rk|t5uI1[1E|t5uI1@]M|t5uI1@&:|t5uI1vcw%@Ru|t5u",
    "I1#T[g#|t5uI1[0e|t5uI1[0f|t5uI1[Rd|t5uI1[Re|t5uI1@@E|t5uI1@wo|X=vv.wf|Xw7-uk|X:7|Xu%Q|Xx9tA|Xvj-",
    "vjt9|X=BvLt9|Xujjt9|Xiujjt9|Xu2@1NtMt9|X@Tk@1NtMt9|X@3Mg|Xi@3Mg|X@3Mt9|X@3M#C|X730v(t9|X730ulv(t",
    "9|Xcy8gc|XZy8gZ|Xcy8t9c|XZy8t9Z|Xl@vlg|XV1g|Xwui@HWg|Xts1g|Xits1g|Xits1t9|Xx9v6wf|X730#yu[|X730#",
    "ytu|X730#yu]|ua1@4X[P8|ua1@4X%A|ua1@xZ|ua1@Tw|ua1@vF|ua0@H4|ua0@H4&y|ua0@MK|ua0@MK&y|ua0@U]|ua0@",
    "U]&y|ua0uS:q|ua0uS:q&y|ua0uw@2r|ua0uw@2r&y|ua0@)W|ua0@pB|ua0@QL|ua0@QL&y|ua0td|ua0td*i|ua0v0|ua0",
    "v0@?8|ua0w9|ua0wM|ua0wM[3m|ua0wE|ua0wE@_X|ua0wy|ua0uq[3=|ua0uq&m*i|ua0u=&m@pZ|ua0u=&m*i|ua0ue[OW",
    "|ua0uq|ua0uq[Xm|ua0u=|ua0u=[7w|ua0ue|ua0tr|ua0tr[0v|ua0vS|ua0vS[1B|ua0ub|ua0uY|ua0uS|ua0uw|ua0v#",
    "|ua0up[R2|ua0up[RZ|ua0up|ua0t]|ua1[O.|uaH1&y|uaH1@4X|uaH1@4X@SV|uaH1@47|uaH1@47@^c|uaH1uS:q|uaH1",
    "uS:q&y|uaH1uw@2r|uaH1uw@2r&y|uaH1@0N|uaH1@0N:q|uaH1@0N&y|uaH1@0N:q&y|uaH1@9f|uaH1@9f&y|ua=M=M|ua",
    "0xu*%|ua0[1j*%|ua0[al*%|ua0(s*%|ua0$x*%|ua0@4t*%|ua0@qv*%|ua0yi@Mk|uaEvV|uaEt0|uaEt3|uaEtC|uaEtQ",
    "|uaEtX|uaEt=|uaEuB|uaEt?|uaEuF|ua@Qo|ua@Qk|ua@Vd|ua@5?[JV|ua@5?[TY|ua@5?[Jx|ua[JR|uadB@J+|uadB@%",
    "y|uadB@K0|uadB@1b|uadB@1b@Tw|uadB@&Z|uadB@$z|uadB@%+|uadB@$*|uadB@1b@:!|uadBX[Xw|uadBX@)q|uadBX@",
    "M!|uadBX@Mz|uadBX@7$|uadBX@M!2@7$|uadBX@Mz2@7$|uadBX@uz|uadBX@?4|uadBZ-tBujzH|uadBZ-tBuj!W|uadBZ",
    "-tBy5@U!|uadBZ-tBy5[XP|uadBc-tBuj[Jb|uadBc-tBuj[MP|uadBc-tBy5[L9|uadBc-tBy5[LJ|uadBc-tBuj@9l|ua@",
    "Qo@NT|ua@Qk@NT|wW1[Jn|wW1[Jf|wW1[Ji|wW0F|wW0t6|wW0n|wW0z0|wW0t1|wW0f|wW0#w|wW0td|wW0#%|wW0v0|wW0",
    "w9|wW0wM|wW0wE|wW0xy|wW0wy|wW0uq|wW0u=|wW0ue|wW0tr|wW0yd|wW0xU|wW0vS|wW0ub|wW0uY|wW0uS|wW0uw|wW0",
    "v#|wW0up|wW0%a|wW0t]|wWvi1[JT|wWvi1[Jl|wWvi1[Jo|wWH1[Jc|wWH1[Jp|wWH1[JW|wWH1[Jj|wWH1[JS|wWH1[Ja|",
    "wW1[JQ|wW1yg|wWvi1@Qtub|wWvi1@Qtv#|wW0ww|wW0[WK|wWEvV|wWEt0|wWEt3|wWEtC|wWEtQ|wWEtX|wWEt=|wWEuB|",
    "wWEt?|wWEuF|wW$z|wW0[P0|wW0@Nk|wW0yK|wW0t2v3|wW0t2uz|xL0F|xL0(SF|xL0t]|xL0(St]|xL0@8at]|xL0vS|xL",
    "0@7=vS|xL0tr|xL0(Str|xL0ue|xL0@8aue|xL0v#|xL0(Sv#|xL0@Qiv#|xL0v0|xL0(Sv0|xL0wE|xL0u=|xL0uS|xL0(S",
    "uS|xL0ub|xL0(Sub|xL0@TNuq|xL0@P(uq|xL0up|xL0(Sup|xL0@8aup|xL0uY|xL0(SuY|xL0w9|xL0uw|xL0(Suw|xL0w",
    "y|xL0wM|xL0:Y|xL0?Y|xL0t6|xL0n|xL1[Y^|xLH1f|xLH1@Qif|xLH1yX|xLH1t6|xLH1@7=t6|xLH1t1|xLH1@7=t1|xL",
    "H1n|xLH1nh(Sup|xLvi1#$|xLvi1vB|xL@Qn|xL[Jk|xLB%?ue[99|xLB%?[K=|xLB%?[02|xLB%?@Qn|wG0td|wG0[26|wG",
    "0ww|wG0v0|wG0@=+|wG0w9|wG0wM|wG0wt|wG0wE|wG0wy|wG0uq|wG0x3|wG0u=|wG0ue|wG0tr|wG0@3V|wG0xT|wG0yd|",
    "wG0@+(|wG0vS|wG0@vP|wG0ub|wG0@O_|wG0z*|wG0%Y|wG0%_|wG0uY|wG0uS|wG0uw|wG0t]|wG0@L=|wG0xU|wG0up|wG",
    "0wI|wG0v#|wG0F|wGvu0uY|wGvu0uS|wGH1ve|wGH1t6|wGH1t1|wGH1x.|wGH1n|wGH1wL|wGH1f|wGvi1v3|wGvi1uz|wG",
    "vi1t+|wGvi1u5|wGvi1vQ|wGvi1tu|wGvi1u]|wGvi1@QB-#M|wGvi1@2S|wG1[OX|wG1!+|wGv1uq-@S7|wGv1@9H[Ybuq-",
    "@S7|wGv1@Iw-v#|wGv1@Up@Iw-v#|wGv1@Up|wGEvV|wGEt0|wGEt3|wGEtC|wGEtQ|wGEtX|wGEt=|wGEuB|wGEt?|wGEuF",
    "|wG0xr|wG0yb|wG0xs|x(x*EvV|x(x*Et0|x(x*Et3|x(x*EtC|x(x*EtQ|x(x*EtX|x(x*Et=|x(x*EuB|x(x*Et?|x(x*E",
    "uF|x(x*0uw|x(x*0!U|x(x*0@0[|x(x*0%:|x(x*0#:|x(x*0?U|x(x*0@nU|x(x*0@nT|x(x*0@nW|x(x*0@nb|x(x*0w!|",
    "x(x*0*X|x(x*0@7n|x(x*0@^^|x(x*0?C|x(x*0!u|x(x*0@4U|x(x*0!T|x(x*0@V2|x(x*0@V7|x(x*0x%|x(x*0@1$|x(",
    "x*0@)H|x(x*0xM|x(x*0@1%|x(x*0#!|x(x*0[Iw|x(x*0[I7|x(x*0@Qb|x(x*0?v|x(x*x][a4|x(x*@L2@Uz|x(x*x]-@",
    "L2@Uz|x(x*[Ox|x(x*[Kh|x(x*@p3|x(x*v1@PA|x(x*v1i@PA|k30%U$x|k30ug-@Nf#7|k30:Xt1|k30xf%H|k30::xv|k",
    "30tC-@Nfxv|k30::(#1|k30::)@|k30[bm=3|tzy750yz|tzy750@19|tzy750+k|tzy750@1p|tzy750xM|tzy750@4b|tz",
    "y750@0r|tzy750@4C|tzy750w*|tzy750:E|tzy750@2p|tzy750#U|tzy750?h|tzy750wi|tzy750@3L|tzy750@4v|tzy",
    "750:p|tzy750:u|tzy750.9|tzy750)+|tzy750@3S|tzy750@2V|tzy750@21|tzy750?]|tzy750zU|tzy750@1Q|tzy75",
    "0%g|tzy750?G|tzy750@1U|tzy750=e|tzy750@4k|tzy750@2O|tzy750@28|tzy750x#|tzy750?5|tzy750z.|tzy750:",
    "0|tzy750@2D|tzy750(0|tzy750=G|tzy750@KT|tzy750ul+k|tzy750yC|tzy750.P|tzy750(#1|tzy750@NL1|wWv1%?",
    "[W3|wWv1%?[Jg|wWv1%?[MY|wWv1%?@If|wWv1%?@Nk@3w|wWv1%?td@3w|wWv1%?u=@3w|wWv1%?vS@3w|x?ti[0(|x?ti[",
    "SZ|x?ti[L&|x?1[D=|x?1@0k@O=)4|x?ti@0k@p0#1)4|x?ti@0k#1)4|x?ti@0k@7?#1)4|x?ti%At9|x?ti@0k@7?#1)4[",
    "Ru|x?tii)4|x?tix9)4|x?ti@7?=R|x?titAt9|x?tit3pt9|x?titCpt9|x?ti[PD@Mv#1)4|x?ti@qy#1)4|x?1y.)4|x?",
    "1y.@4V|x?1vcy.@4V|x?1y.=R|x?1vcy.=R|x?1y.@4V2wK|x?1y.=R2wK|x?1xa@HL|x?1xa@t*|x?1xa@VA|x?1xa@VA2w",
    "K|x?1[Yx|x?1@@tugxa|x?1ugxa|x?1[P*ugxa|x?1xa[bL[Ay|x?1@HX|x?1w%@HX|x?ti%Ag|x?1:C|x?1=4|x?1@q!|x?",
    "tiukg|x?tiiukg|x?1ixa@HL|7035F|7035z0|730ulz0|7035$!t4|7035tb|7035tV|7035*P|7035f|730ulujf|730ul",
    "t6|7035vt|7035v3|7035t+2tM|7035uz|7035vcu5|7035t1|7035ujt1|730$8t1|730$8ujt1|730$8t12tM|730ulyM|",
    "7035*v|730xxt(t1|730ywt(t1|7035vQ|7035vctu|7035ultu|7035u]|7035n|730$8n|730$8@&Fn|730$8uluz|7035",
    "v5|7035v(|7035vR|7035&c|70&N[3+[UX|70yC|a035#O|a035%s|a035xi|a035!Q|a035$r|k035#9|t805F|t805z0|t",
    "805t4|t805$!t4|t805tV|t805f|t805vcf|t805u[|t805vB|t805t6|t805vt|t805v3|t805t+|t805uz|t805u5|t805",
    "vcu5|t805t1|t805*v|t805vQ|t805tu|t805u]|t805n|t805v(|t803F|t803ulF|t803wS|t803ulz0|t803t4|t803tV",
    "|t803f|t803&t|t803ujf|t803ulujf|t803u[|t803ult6|t803v3|t803uz|t803&b|t803t1|t803ujt1|t803xxt(t1|",
    "t803ywt(t1|t803vQ|t803u]|t803n|t803$8n|t803uluz|t803v5|t803yC|t803#[|t803a#O|t803#v|t803a!.|t803",
    "!m|7yu30t6|7yu30tu|7yu30n|7yu30v5|ayu30#[|ayu30#O|ayu30!Q|ayu30!.|ayu30!m|730#G|730t42tRu(|730tV",
    "2tRu(|730uV2tRu(|730uz2tRu(|730u52tRu(|730vQ2tRu(|730tu2tRu(|730tu2*RPtRu(|730tt2tRu(|730u]2tRu(",
    "|730vR2tRu(|730ulu[|t80kxM|730#yu[|730%12[Vk|7350t62tM|730xW2tM|730vQ2tM|7350n2tM|730x=2tM|730t4",
    "2!3tW|730tV2!3tW|730uV2!3tW|730u[2!3tW|730v32!3tW|730t+2!3tW|730uz2!3tW|730u52!3tW|730vQ2!3tW|73",
    "0tu2!3tW|730tt2!3tW|730$22!3tW|730v52!3tW|730vj2!3tW|730vR2!3tW|730F2yatW|730wS2yatW|730tV2tWPwK",
    "|730f2yatW|730ujf2yatW|730vcujf2yatW|730&t2yatW|730t62yatW|730ujt12yatW|730$22yatW|730n2yatW|730",
    "&c2yatW|t803ulwS|t803tb|t803tb2#L|t803*P|t803vcujf|t803uV|t803#evt2tM|t803uhu[|t803ulvB|t803t62t",
    "M|t803xW|t8035t6|t8035t62tM|t803vt2#K-wK|t803t+2yatW|t803t+2!3tW|t8035t+|t803uz2tW|t803uluz2ug#z",
    "|t803u52ctW|t803u52yatW|t8035u5|t803$!t1|t803!.|t803tt2tW|t803$2|t803u]2!3tW|t803nu0|t803x=|t803",
    "5n|t803v52tW|t803ulv5|t803vR|t803vR2yatW|t803vR2#L|t803&c|t803!?|XyFwCwf|XyFv6wf|X@40t9|X@A&j|Xw",
    "H-v6|XwC-wH|XwH-wC|Xv6-wH|XwC-v6-wC|Xv6-wC-v6|X730tut9|XxA-wH|XwH-xA|Xiv.g|X%Pg|X&)t9|X*Xt9|X).g",
    "|X@4Zg|X730=)ujFg|X730z0|X730@10|X730.U|X730tbz:|X730#ytV|X730*P|X730u[|X7035u[|X730v3|X730t+|X7",
    "035t+|X7035uz|X730u5|X7035u5|X7035tu|X730tu@08|X730tt|X730ugtt|X730vR|X730wS|X730t4|X730#[|X730&",
    "t|X730uV|X730t+2itRu(|X730t12u2@1NtM|X730vQ|X730$2|X730n2u2@1NtM|X730v(|X730F2w7|X730t12w7|X730n",
    "2w7|XtjzFg|X)jgZ|X)jgc|XtAgc|Xxfwu.dt9|XtAt9c|X@%rj|XiwuxAt9|X$yustGt9|Xcw6g|XZw6Pt$w6t9|750F2uk",
    "t9|730F2ukt9|750t42tAg|730t42tAg|750t42tAt9|730t42tAt9|750t42vLt9|730t42vLt9|750tb2z:Pv6|730tb2z",
    ":Pv6|750tV2tAg|730tV2tAg|750tV2tAt9|730tV2tAt9|750tV2vLt9|730tV2vLt9|750tV2z:|730tV2z:|750tV2v.t",
    "9|730tV2v.t9|750f2wHPwC|730f2wHPwC|750f2wHPv6|730f2wHPv6|750f2v.t9|730f2v.t9|750f2u(t9|730f2u(t9",
    "|750f2z:PxA|730f2z:PxA|750uV2tAg|730uV2tAg|750u[2wH|730u[2wH|750vB2tAg|730vB2tAg|750vB2tAt9|730v",
    "B2tAt9|750vB2w7|730vB2w7|750vB2z:|730vB2z:|750vB2xAt9|730vB2xAt9|750t62u(t9|730t62u(t9|750t62w7P",
    "v6|730t62w7Pv6|750v32v6|730v32v6|750v32tAt9|730v32tAt9|750v32vLt9|730v32vLt9|750t+2tAt9|730t+2tA",
    "t9|750t+2tAt9PwH|730t+2tAt9PwH|750t+2vLt9|730t+2vLt9|750t+2v.t9|730t+2v.t9|750uz2v6|730uz2v6|750",
    "uz2tAg|730uz2tAg|750uz2tAt9|730uz2tAt9|750u52tAg|730u52tAg|750u52tAt9|730u52tAt9|750u52vLt9|730u",
    "52vLt9|750u52v.t9|730u52v.t9|750t12u(Pv6|730t12u(Pv6|750t12u(Pw7|730t12u(Pw7|750t12wHPwC|730t12w",
    "HPwC|750t12wHPv6|730t12wHPv6|750vQ2v6|730vQ2v6|750vQ2tAg|730vQ2tAg|750tu2tAg|730tu2tAg|750tu2tAt",
    "9|730tu2tAt9|750tu2tAt9PwH|730tu2tAt9PwH|750tu2vLt9|730tu2vLt9|750tt2tAg|730tt2tAg|750tt2tAt9|73",
    "0tt2tAt9|750tt2v6PtAg|730tt2v6PtAg|750tt2yEPtAg|730tt2yEPtAg|750tt2tAt9PtAg|730tt2tAt9PtAg|750u]",
    "2tAg|730u]2tAg|750u]2tAt9|730u]2tAt9|750u]2vLt9|730u]2vLt9|750u]2v.t9|730u]2v.t9|750n2w7t9|730n2",
    "w7t9|750n2u(t9|730n2u(t9|750n2v.t9|730n2v.t9|750n2u(Pv6|730n2u(Pv6|750n2wHPw7|730n2wHPw7|750v52u",
    "(|730v52u(|750v52tAt9|730v52tAt9|750v(2wC|730v(2wC|750v(2v6|730v(2v6|750v(2w7|730v(2w7|750v(2tAg",
    "|730v(2tAg|750v(2tAt9|730v(2tAt9|750vj2tAg|730vj2tAg|750vj2w7|730vj2w7|750u?2tAg|730u?2tAg|750vR",
    "2v.|730vR2v.|750vR2tAt9|730vR2tAt9|750vR2vLt9|730vR2vLt9|730vB2vLt9|730u]2w7|730v(2ukg|730u?2ukg",
    "|730F2Zt(uk|730ugtt2tAg|730ugtt2uftM|730ugtt2uAtM|750+@tt|730#v|750F2tAt9|730F2tAt9|750F2tWg|730",
    "F2tWg|750F2v.Pv6|730F2v.Pv6|750F2v.PwC|730F2v.PwC|750F2v.PtWg|730F2v.PtWg|750F2v.Pu(|730F2v.Pu(|",
    "750F2v.PtAt9|730F2v.PtAt9|750F2xAPv6|730F2xAPv6|750F2xAPwC|730F2xAPwC|750F2xAPtWg|730F2xAPtWg|75",
    "0F2xAPu(|730F2xAPu(|750F2xAPtAt9|730F2xAPtAt9|750f2tAt9|730f2tAt9|750f2tWg|730f2tWg|750f2u(|730f",
    "2u(|750f2v.Pv6|730f2v.Pv6|750f2v.PwC|730f2v.PwC|750f2v.PtWg|730f2v.PtWg|750f2v.Pu(|730f2v.Pu(|75",
    "0f2v.PtAt9|730f2v.PtAt9|750t62tWg|730t62tWg|750t62tAt9|730t62tAt9|750t12tAt9|730t12tAt9|750t12tW",
    "g|730t12tWg|750t12v.Pv6|730t12v.Pv6|750t12v.PwC|730t12v.PwC|750t12v.PtWg|730t12v.PtWg|750t12v.Pu",
    "(|730t12v.Pu(|750t12v.PtAt9|730t12v.PtAt9|750t12zJPv6|730t12zJPv6|750t12zJPwC|730t12zJPwC|750t12",
    "zJPtWg|730t12zJPtWg|750t12zJPu(|730t12zJPu(|750t12zJPtAt9|730t12zJPtAt9|750n2tAt9|730n2tAt9|750n",
    "2tWg|730n2tWg|750n2zJPv6|730n2zJPv6|750n2zJPwC|730n2zJPwC|750n2zJPtWg|730n2zJPtWg|750n2zJPu(|730",
    "n2zJPu(|750n2zJPtAt9|730n2zJPtAt9|750u?2wC|730u?2wC|750u?2tAt9|730u?2tAt9|750u?2tWg|730u?2tWg|75",
    "0u?2u(|730u?2u(|750tR-@4fzB|730tR-@4fzB|750tR-@4fv5|730tR-@4fv5|750u?2!Z|730u?2!Z|a30wS2w2|a30wS",
    "2vy|a30wS2w2Pw_|a30wS2vyPw_|a30wS2w2Pw]|a30wS2vyPw]|a30wS2w2Py0|a30wS2vyPy0|a50wS2w2|a50wS2vy|a5",
    "0wS2w2Pw_|a50wS2vyPw_|a50wS2w2Pw]|a50wS2vyPw]|a50wS2w2Py0|a50wS2vyPy0|a30y!2w2|a30y!2vy|a30y!2w2",
    "Pw_|a30y!2vyPw_|a30y!2w2Pw]|a30y!2vyPw]|a50y!2w2|a50y!2vy|a50y!2w2Pw_|a50y!2vyPw_|a50y!2w2Pw]|a5",
    "0y!2vyPw]|a30xN2w2|a30xN2vy|a30xN2w2Pw_|a30xN2vyPw_|a30xN2w2Pw]|a30xN2vyPw]|a30xN2w2Py0|a30xN2vy",
    "Py0|a50xN2w2|a50xN2vy|a50xN2w2Pw_|a50xN2vyPw_|a50xN2w2Pw]|a50xN2vyPw]|a50xN2w2Py0|a50xN2vyPy0|a3",
    "0xW2w2|a30xW2vy|a30xW2w2Pw_|a30xW2vyPw_|a30xW2w2Pw]|a30xW2vyPw]|a30xW2w2Py0|a30xW2vyPy0|a50xW2w2",
    "|a50xW2vy|a50xW2w2Pw_|a50xW2vyPw_|a50xW2w2Pw]|a50xW2vyPw]|a50xW2w2Py0|a50xW2vyPy0|a30z%2w2|a30z%",
    "2vy|a30z%2w2Pw_|a30z%2vyPw_|a30z%2w2Pw]|a30z%2vyPw]|a50z%2w2|a50z%2vy|a50z%2w2Pw_|a50z%2vyPw_|a5",
    "0z%2w2Pw]|a50z%2vyPw]|a30x=2w2|a30x=2vy|a30x=2w2Pw_|a30x=2vyPw_|a30x=2w2Pw]|a30x=2vyPw]|a30x=2w2",
    "Py0|a30x=2vyPy0|a50x=2vy|a50x=2vyPw_|a50x=2vyPw]|a50x=2vyPy0|a30wO2w2|a30wO2vy|a30wO2w2Pw_|a30wO",
    "2vyPw_|a30wO2w2Pw]|a30wO2vyPw]|a30wO2w2Py0|a30wO2vyPy0|a50wO2w2|a50wO2vy|a50wO2w2Pw_|a50wO2vyPw_",
    "|a50wO2w2Pw]|a50wO2vyPw]|a50wO2w2Py0|a50wO2vyPy0|a30wS2w_|a30wS2w]|a30y!2w_|a30y!2w]|a30xN2w_|a3",
    "0xN2w]|a30xW2w_|a30xW2w]|a30z%2w_|a30z%2w]|a30x=2w_|a30x=2w]|a30wO2w_|a30wO2w]|a30wS2w2Py:|a30wS",
    "2vyPy:|a30wS2w2Pw_Py:|a30wS2vyPw_Py:|a30wS2w2Pw]Py:|a30wS2vyPw]Py:|a30wS2w2Py0Py:|a30wS2vyPy0Py:",
    "|a50wS2w2P!P|a50wS2vyP!P|a50wS2w2Pw_P!P|a50wS2vyPw_P!P|a50wS2w2Pw]P!P|a50wS2vyPw]P!P|a50wS2w2Py0",
    "P!P|a50wS2vyPy0P!P|a30xN2w2Py:|a30xN2vyPy:|a30xN2w2Pw_Py:|a30xN2vyPw_Py:|a30xN2w2Pw]Py:|a30xN2vy",
    "Pw]Py:|a30xN2w2Py0Py:|a30xN2vyPy0Py:|a50xN2w2P!P|a50xN2vyP!P|a50xN2w2Pw_P!P|a50xN2vyPw_P!P|a50xN",
    "2w2Pw]P!P|a50xN2vyPw]P!P|a50xN2w2Py0P!P|a50xN2vyPy0P!P|a30wO2w2Py:|a30wO2vyPy:|a30wO2w2Pw_Py:|a3",
    "0wO2vyPw_Py:|a30wO2w2Pw]Py:|a30wO2vyPw]Py:|a30wO2w2Py0Py:|a30wO2vyPy0Py:|a50wO2w2P!P|a50wO2vyP!P",
    "|a50wO2w2Pw_P!P|a50wO2vyPw_P!P|a50wO2w2Pw]P!P|a50wO2vyPw]P!P|a50wO2w2Py0P!P|a50wO2vyPy0P!P|a30wS",
    "2=8|a30wS2wH|a30wS2w_Py:|a30wS2y:|a30wS2w]Py:|a30wS2y0|a30wS2y0Py:|a50wS2=8|a50wS2wH|a50wS2w_|a5",
    "0wS2w]|a50wS2!P|a@85|a!P|aw2|ay0|a$gPy0|a30xN2w_Py:|a30xN2y:|a30xN2w]Py:|a30xN2y0|a30xN2y0Py:|a5",
    "0y!2w_|a50y!2w]|a50xN2w_|a50xN2w]|a50xN2!P|aw2Pw_|aw2Pw]|aw2Py0|a30xW2=8|a30xW2wH|a30xW2$gPw_|a3",
    "0xW2$gPw]|a30xW2y0|a30xW2$gPy0|a50xW2=8|a50xW2wH|a50xW2w_|a50xW2w]|avyPw_|avyPw]|avyPy0|a30x=2=8",
    "|a30x=2wH|a30x=2$gPw_|a30x=2$gPw]|a30!Q2w2|a30!Q2vy|a30x=2y0|a30x=2$gPy0|a50x=2=8|a50x=2wH|a50x=",
    "2w_|a50x=2w]|a50!Q2vy|a$gPw_|a$gPw]|aw_|a30wO2w_Py:|a30wO2y:|a30wO2w]Py:|a30wO2y0|a30wO2y0Py:|a5",
    "0z%2w_|a50z%2w]|a50wO2w_|a50wO2w]|a50wO2!P|aw]|avy|xM!:|#B!:|xM#Y|#B#Y|tC-*z-#B#Y|tQ-*z-#B#Y|t=-",
    "*z-#B#Y|(2#Y|v1#Y|@4E#Y|+o#Y|vV(c#Y|vV(c@34-*a|vV(c*a|c-tG-Zj|Z-tG-cj|$(|@34-@vq$(|(2yc|xMyc|#By",
    "c|t*u0|itJvL|it_vL|cvmz(j|Zvmz(j|vmt_-%6z(j|vmuA-vc-%6z(j|ciz(j|Ziz(j|it_-%6z(j|iuA-vc-%6z(j|+T|",
    "i+T|%f|#Z%f|t0tA@8H|t3tA@8H|t**N|@MB!g|vL!w|?$!w|c-tG-Z@KV|Z-tG-c@KV|@9s@Jy@.D|c-tG-Z@Qd|Z-tG-c@",
    "Qd|:Xxo-@5!#Y|*z@O]1|*zvvux1|&s|i&s|x9&s|vc&s|vci&s|vcx9&s|(n|vmc-t[v+z(j|vmZ-t[v+z(j|[Osj|i!nj|",
    "?B|*x|@U_|vO:@|(n@7s!g|@qr|$(%f|vA$]|cluG2@3h|ZluG2@3h|i!6j|!6!nj|!n!6j|@UJ1&2|vc@R01|t7t:%f|t7t",
    "l%f|t_y4|vc&v|@64tj|t3@qq@pV+A|=k!c1|[WHyc|wu@U_|=+v1j|tCtAv1|(L&s|tQtAv1|tXtAv1|t3tAv1|tQtAj|yF",
    "xg|@Ue|tJtQp|u&C#Y|#H*a|@7A@q9|@7uN|@7u!w|@7uts|c-tG-Z@2M|Z-tG-c@2M|)a@Tk@2M|@9s@Jy@2M|@MO@T(@Ty",
    "|@G=@T(@Ty|@MO8G@Sp|@G=8G@Sp|@PQE@So|[F1E@So|!SvV|!S730t6|!StQ|!StX|!St=|!SuB|!St?|!SuF|!Sts1|!S",
    "!c|!Sz21|!Scy8|!SZy8|!S730u5|yuvV|yut0|yut3|yutC|yutQ|yutX|yut=|yuuB|yut?|yuuF|yuts1|yu!c|yuz21|",
    "yucy8|yuZy8|7yu30F|7yu30f|7yu30t1|7yu30vj|7yu30&t|7yu30vB|7yu30v3|7yu30t+|7yu30uz|7yu30u5|7yu30v",
    "Q|7yu30tt|7yu30u]|@6%-&]1|zY1|@#I1|@K=@.M1|@Nu1|[9@1|[B)1|[KW1|*$1|@Br1|vl[Sk1|@J+1|@6%1|@M]1|[a",
    "91|@6p1|@:@[KL1|@Q.1|@?U1|@q]1|@]P1|@xa1|[4![Z81|[UT1|[X&1|@^x*$1|[aL@Nu1|[F6j1|[861|[P.1|[3*1|@",
    "vK1|@TK1|Xcw(g|XZw(g|XugtJvL#C|Xv:tJvL#C|X#IQg|X$$Qg|XcQg|XZQg|Xuk#C|X$$uk#C|X#Iuk#C|XtCpg|XtQpg",
    "|X+ctx|X+cl|X+cx@|X+ctx+O|XcZQg|X+c@0B|X+c@M&|X+c@V4t[tm|X#i#4#C|XitJtM#C|X@p:B|Xx9[bp|Xxf.dg|Xt",
    ":Q#C|Xugi#4#C|Xtlw(2u)u%|Xt:w(2u)u%|XcQt9|XZQt9|Xy4g|@G.tS|@ostGyO[Vx|i-vH5tb|@1d@xf|wvvLB|@w_tS",
    "|@wt[bi|@)_@6C|[R#|@1d@+D|uh3u[|uh5vB|t7-05vB|i-vH5vB|@R9@6C|@R9@6CuRt3xi|uh5t6|t7-05t6|uh5t+|uh",
    "3t+|t+t4u0B|i-vH5u5|[GK1|$t[Oq@J3|uh5vQ|i-vH5vQ|i-vH5x6|uh5tu|t7-05tu|i-vH5tu|[L([XQ|@R=|[S8j|&z",
    "1|[ZFj1|[dc|i-vH5vR|@Qa1|@3C1|wu@3C1|t7-05vR|ula30xW|[1A1|@px1|uh5t4|t7-05tb|@)?B|uh3f|uh5f|uh5u",
    "V|ul5uV|uh5uz|uh3t1|t^B|.aB|$iB|@1aB|@7p@Af|w%5x6|@+B1|i-vH3xi|i-vH3#O|i-vH5#O|i-vH5xi|i-vHu5-$b",
    "@0L|uls-q5u[|uls-q5t+|vcs-q5t+|uls-q5u?|i-vHm5tV|i-vHm3tV|i-vHm3f|i-vHm3t6|i-vHm3vt|[M5vL|ul*1|*",
    "z1|@pL|ul3uV|Bhw^@Af|$BvAt0[SE|$BvAt0[D_|$BvAt0@A_|$BvAt0%%|$BvAt3))|$BvAt0@6]|$BvAt3@6^|$BvAtC@",
    "6^|$BvAtQ@6^|$BvAt0@AV|$BvAtX@T1|$BvAt0ym|$BvAtC%C|$BvAtX%C|$BvAuB%C|vA:ct0|xjw4t0|xjw4t3|xjw4tC",
    "|xjw4tQ|xjw4tX|xjw4t=|xjw4uB|xjw4t?|xjw4uF|xjw4vv|xjw4&1|xjw4%2|xjw4z8|xjw4t0uE|xjw4tXuE|xjw4t0u",
    "x|3xjw4t0|3xjw4t3|3xjw4tC|3xjw4tQ|3xjw4tX|3xjw4t=|3xjw4uB|3xjw4t?|3xjw4uF|3xjw4vv|3xjw4&1|3xjw4%",
    "2|3xjw4z8|3xjw4t0uE|3xjw4tXuE|3xjw4t0ux|xjw4t0uxtbtV|xjw4tXux|xjw4vvux|xjw4vct0uE|730vctb|xjw4t=",
    "[3:G|xjw4z8@)EG|xjw4z8ux|xjw4t0uEux|$BvAvV))|ulEt3|ulEtC|t:Q|u:Q|tlQ|u%Q|cZQ|tjt$Q|u+u7Q|u+w+Q|v",
    "Uw+Q|vUu7Q|t:Q2tM|tlQ2tM|t:zWQ|tlzWQ|t:t3u9Q|u:t3u9Q|tlt3u9Q|u%t3u9Q|t:Q2wK|tlQ2wK|t:Qz3u0|u:Qz3",
    "u0|tlQz3u0|u%Qz3u0|tjt$Q2@1B|t:Q2tW|tlQ2tW|t:Q2!Z|tlQ2!Z|cZzWQ|cZQ2tM|u%&)Q|u:Q2#mt:|u:Q2#mtl|u%",
    "Q2#mt:|u%Q2#mtl|tlQ2y=u%|u%Q2y=t:|#Ixx@0CQ|$$xx@0CQ|u+u7QtGugu0|t:QtGu0uRtlQtGu0|#IujtxQ|$$ujtxQ",
    "|t:w(2u)u:|t:w(2u)u%|u:w(2u)tl|u:w(2u)t:|tlw(2u)u:|tlw(2u)u%|u%w(2u)tl|u%w(2u)t:|tlQuRt:Q|u:Qt:t",
    "Su%Q|t:QuRtlQ|t:*y$a|u:*y$a|tl*y$a|u%*y$a|t:w(uRtlw(|tlw(uRt:w(|t:iQ2tM|cZiQ2tM|tliQ2tM|t:iQ|u:i",
    "Q|tliQ|u%iQ|cZiQ|tjt$iQ|u+u7iQ|u+w+iQ|vUw+iQ|vUu7iQ|t:x9Q|tlx9Q|t:@43Q|tl@43Q|u:Q2itM|u%Q2itM|t:",
    "%^Q|u:%^Q|tl%^Q|u%%^Q|t:QtGu0|tlQtGu0|t:tEQ|u:tEQ|tltEQ|u%tEQ|u:tEQz3u0|u:tEQwi@3O|u:tEQwi@3O2t*",
    "u0|u:tEQwi@3O2tJu0|u:tEiQ|u:tEiQwi@3O|tltEQz3$Y|u+u7QtGy=|vUw+QtGy=|tjt$tEQ|ZQ23tx|u%Qt:tSu:Q|tC",
    "tl$a|t:Q2tJtM|tlQ2tJtM|cZQ2tJtM|t:Q2itJtM|tlQ2itJtM|cZQ2itJtM|t:uj-u9Q|tluj-u9Q|cZuj-u9Q|h=P|@!i",
    "|:i.q|@UD@*B|@UD&Zwx@*A|%E)z|@^w|:W|&0tS|wxyz&0tS|3&0tS|)R#q@2)|&Zwx@6E#q@2)|3)R#q@2)|zmtS[M4|u5",
    "-$b&I|u5-$b@J2|u5-$b@0L|!c1|!c-vM-ts1|tAts|*J$]|)z!c|y4x^|ukx^|%fx^|l@07|@6O@07|+j@07|[M6tG|:7|Z",
    "v+|v+|&lv+|@Ahv+|@&r|&Zwx@6j|(?tG|wx(?tG|z^P|z^vM|$K|#)|!&|i!&|x9!&|@6F!&|@A%!&|[d@!&|$$!&|$$@6F",
    "!&|#I@6F!&|[YA|@up|[Oe|@RR|tA!c|@*5|@:=@RR|@L_|u(x^|vcu(|wu@8Gtt|[TbzW|[fc&I|wxu(|!cu(|@HfustG|w",
    "x@HfustG|.TustG|.T(mwx@G?ustG|)o.T%t@G?ustG|$yustG|wx$yustG|$yusvMustG|x9u(|=PustG|%FtG|@LI%FtG|",
    "@&N!k|@qByO[4n|@LIustG|.TustGvMyO)htS|)htSvM.TustG|zYz2|z2zY|ukw*ustG|ukustG|@#0tG|@)@|@)&tG|x8z",
    "2|#vustG|ustG&V@%m|&l&V|[NQustG|wxustG|@2ItG|wx@2ItG|[Vi%FtG|x1-uXvMustG|w=-uXvMustG|x1-uXuRustG",
    "|w=-uXuRustG|x1-uX(mwxustG|w=-uX(mwxustG|?dx1-uX|?dw=-uX|!k|wx%FtG|wxx1-uX|wxw=-uX|)ox1-uX%tustG",
    "|)ow=-uX%tustG|x1-uXvM%FtG|w=-uXvM%FtG|)ox1-uX%t%FtG|)ow=-uX%t%FtG|x1-uXvMw=-uX|w=-uXvMx1-uX|)ox",
    "1-uX%tw=-uX|)ow=-uX%tx1-uX|&H|&M|&HvMustG|&MvMustG|&HvM%FtG|&MvM%FtG|&Zwx@RK|&Zwx@To|!ztS|!!tS|w",
    "xF!ztS|wxF!!tS|!ztSvMustG|!!tSvMustG|)oF!ztS%tustG|)oF!!tS%tustG|!ztS2wxustG|!!tS2wxustG|@8#|@8#",
    "&A|@8##)|l)htS|l?ytS|l)htSvMustG|l?ytSvMustG|l@1M|l#t|ots|o!c|oN|o*J$]|otAx^|oukx^|oy4x^|oz2|oyc",
    "|tyts|ty!c|tyN|tytAx^|ZzF|czF|t$zF|tjzF|@qo|[AF|@BP|@.B|x9tJu0Z+8|itJu0iZ+8|&Zwx[M9|wx@BP|&Zwx@.",
    "A|@PXitJu0iZ+8|&H)9@3p|&M)9@3p|(.*@tS|)R#q(.*@|(.*@tSvMustG|)R#q(.*@vMustG|?ytS|)htS|@8!|@@q@!t[",
    "8d|@^:|[g7|[B+|%t|Zv+2#p|Ztm|u5-$bz^P|u5-$bz^vM|u5-$b$K|u5-$b#)|x@x^|tAx^|x8x^|*JN|@1H|c(.@6.@0D",
    "&I|Z(.@6.@0D&I|c@0D&I|Z@0D&I|vcu(z2|z1z^vM|z1z^P|i!z|i!!|i$K|i#)|@R7|usP(?tG|x1-uX2tA|w=-uX2tA|z",
    "u?dx1-uX|zu?dw=-uX|x1-uXustGvMw=-uX|w=-uXustGvMx1-uX|ustGvMx1-uX|ustGvMw=-uX|ustGvM&H|ustGvM&M|&",
    "Zwx@RKvMus|&Zwx@TovMus|wxl)htSvMustG|wxl?ytSvMustG|l)htSvMwxustG|l?ytSvMwxustG|x1-uX(mwx%FtG|w=-",
    "uX(mwx%FtG|&H(mwx%FtG|&M(mwx%FtG|wx(.*@tS|&Zwx@6E#q(.*@|wx(.*@tSvMustG|&Zwx@6E#q(.*@vMus|tJ*N|@O",
    "=t**N|tjZuf*N|t$Zuf*N|&0tS2ugt*tM|&0tS2tJu0!UzmtSt*tM|3&0tS2tJu0!UzmtSt*tM|&0tS2tAg|&0tS2&D|3&0t",
    "S2&D|&0tS2!@|&0tS2t3t*@Ax|)R2ugt*tM|)R2tJu0!UzmtSt*tM|3)R2tJu0!UzmtSt*tM|)R2&D|3)R2&D|vRw1@17[8[",
    "|@&G1|@1zQ|:5|tjw6|t$w6|[M2|[KT|(bvL|c$e|Z$e|c$F|Z$F|ywZ@1X|ywc@1X|xxZ@1X|xxc@1X|vcwx1|l&5|#p|@A",
    "C|[R+|&z[Op|:mzR|[drl|+)tS@^=1|ulwx1|@VU|@2E|xxcy=|xxZy=|ywcy=|ywZy=|xxt(!&|ywt(!&|@1]|@0G|tjw6!",
    "kt3t*=W|[Ik)k|@KdtGyOZ|vjw*F)utw|?O|c-t[v+uG|Z-t[v+uG|@KdtGyOc|@H]uk|@#d|=P@13-[L]|[WM|@UV[P_|@&",
    "U[In|@!s[Xc|[T&|@#3|@#4|wcwdBt6-@5r|wcwdB[Up!:|wcwdB!:us|wcwdB!:@6j|wcwdB!:x@|wcwdB!:*b|wcwdB!:t",
    "x|wcwdBtx:(|wcwdBtx*b|wcwdB$]u0|wcwdB+Ou0|wcwdB!:$]|wcwdB!:+O|wcwdB!:x1-uX|wcwdB!:w=-uX|wcwdBt:@",
    "4a|wcwdBtl@4a|wcwdB!:t:Q|wcwdB!:tlQ|wcwdBtx+O|wcwdBt$zF!@|wcwdB#v:(|wcwdB!:t$(n|wcwdB!:#v|wcwdBt",
    "$zF*b|wcwdBu:@4a|wcwdB!:u:Q|wcwdBtjzF&D|wcwdB@1e:(|wcwdB!:tj(n|wcwdB!:@1e|wcwdBtjzF*b|wcwdBu%@4a",
    "|wcwdB!:u%Q|wcwdB@Rk!@|wcwdB#v!@|wcwdBx@!@|wcwdB*b!@|wcwdBtx!@|wcwdBtj+]*b|wcwdB@Rk!:|wcwdBtxx8|",
    "wcwdB!:zY|wcwdBtjzFw7|wcwdB@1ew7|wcwdBx8w7|wcwdB*bw7|wcwdBtxw7|wcwdBt$+]:(|wcwdBc+]:(|wcwdBu(w7|",
    "wcwdBw=-uXw7|wcwdBx0u0|wcwdB@1eu(|wcwdB[i@|wcwdB:(u(|wcwdB&v!@|wcwdB!:wxus|wcwdB!:!6|wcwdBt$(nu(",
    "|wcwdBtj(nu(|wcwdBxW|wcwdB!Q|wcwdBwO|wcwdBwS!@|wcwdBy!!@|wcwdBxW!@|wcwdBwO!@|wcwdBwS|wx%hj|Zv+2u",
    "%&)Q|[S.ujtw|+RB|tJvL2tRtA|@7sB|@!!@U^B|@&g@U^B|@KXB|@6AB|tEl2wvtJvL|@KaB|@5Z)kB|@@kB|ot*u02@P)|",
    "otmt$|.etx2[F8Q|[bqB|[ARB|@]=B|uj-@I.-@3HvB-$XB|uj-@I.-@3Ht+-$XB|@Qu-@RV-t$-@3HB|@Qu-@RV-tj-@3HB",
    "|@6i@6PBGt3|[U2-@7AB|wcwdB!:|@6b!w)kB|[L.(=|[C?(=|@RN@0BB|@y:@0BB|cy8t@tW|cy8*Q|cy8t)tW|Zy8t@tW|",
    "Zy8*Q|Zy8t)tW|cluGt@y=|cluG*Q|cluGt)y=|ZluGt@y=|ZluG*Q|ZluGt)y=|cz1uGt@tW|cz1uGtR)s|cz1uGt)tW|z1",
    "uG*Q|Zz1uGt@tW|Zz1uGtR)s|Zz1uGt)tW|!&*Q|t*vL*Q|t@cvMt)Zz1uGy*|t@ZvMt)cz1uGy*|@0Lxx|@0Lyw|xxluG|y",
    "wluG|ywluGuRxxluG|rByw|ctJtwvL|ZtJtwvL|t*@3xvL-v)|t*@3xvL-vo|t*@3xvL-zP|t*@3xvL-%6|%BBu2tJPxxZ|%",
    "BBu2tJPywZ|%BBu2tJ2tx|%BBu2t$Pt*2tx|%BBu2tjPt*2tx|%BBu2tJ2tm|%BBu2t$Pt*2tm|%BBu2tjPt*2tm|%BBu2tJ",
    "PzW|%BBu2t$Pt*2zW|%BBu2tjPt*2zW|%BBu2t$Pt*|%BBu2tjPt*|%BBu2tJPxxc|%BBu2tJPywc|l@1=|@04B|@)UB|tJv",
    "L*Q|)mxA|)muguRv:|)mv:uRug|)muguRt3@3.|)mt3@3.uRug|)mt3@3.?I|)m@Ug|)m@U7|)m@Q#|$%@Ld|@.Z|xxy8|yw",
    "y8|xxz1uG|ywz1uG|xx!$zhuG|yw!$zhuG|tE[ZL|@H]uk2tx|[Va|@+.|@0?@6P|@)a$K|@6b@*DB|t7Z-t[itm|t7c-t[i",
    "tm|t7tj-t[itm|t7t$-t[itm|t7Z-t[itm2tJu0|t7c-t[itm2tJu0|t7Z-t[tm2itJu0|@pN!V|[VW|[Ym!V|@2E2@+[[RT",
    "|t7u&c-t[tm|t7u&Z-t[tm|t7u&tj-t[tm|t7u&t$-t[tm|itJu0|t7lhwJ|t7txh@R!|:nB|:nwi-@9KB|:nwiB|:n[TxB|",
    "[IF(vB|Bh@P_|Bh@0JtS@@V|Bh@0JtS)&|BhzmtS)&|BhzmtS@Ub|Bh@)v|Bh@G:|Bh+R|Bh@tv|Bht*@T*|BhvL@6?|BhtJ",
    "@T*|BhG@6?|Bh@x2@04|Bh@Su$5|Bh@Suw*|Bh@%2@Ns@Kg|Bh@1g.kt0|Bh@1g.kt3|Bh@1g.ktC|Bh@1g.ktQ|BhvD@G:|",
    "Bh[WP@^R|BhzmtS@Ubt%|Bh@Ii|BhzmtSu&|Bh@Tn|Bh@Kg|Bh=&!w|Bh@Le!w|Bh@R!!w|Bh&!!w|Bh#Y|Bh@Jk|@IBB|uj",
    "tw|Bh@8]|Bh@JkGt3|Bh@TnGt3|(ItW|(I@Iz|(I@1?|(Iwu@1?|(I&:@v)|(I.c:@|(I)I@5n@MG|(I@pktS%h|(Iyc|(I@",
    "#W@G.V|(Ii+O|oEt0|oEt3|oEtC|oEtQ|oEtX|oEt=|oEuB|oEt?|oEuF|oVvv|oV&1|oV%2|oV+1|oV*S|oV(1|oV)3|oV*",
    ")|oV)V|oV*p|oVws|uHEt0|uHEt3|uHEtC|uHEtQ|uHEtX|uHEt=|uHEuB|uHEt?|uHEuF|uHVvv|uHV&1|uHV%2|uHV+1|u",
    "HV*S|uHV(1|uHV)3|uHV*)|uHV)V|uHV*p|uHVws|Et0xhwJ|Et3xhwJ|EtCxhwJ|EtQxhwJ|EtXxhwJ|Et=xhwJ|EuBxhwJ",
    "|Et?xhwJ|EuFxhwJ|VvvxhwJ|V&1xhwJ|V%2xhwJ|V+1xhwJ|V*SxhwJ|V(1xhwJ|V)3xhwJ|V*)xhwJ|V)VxhwJ|V*pxhwJ",
    "|VwsxhwJ|uH730F|uH730t4|uH730tb|uH730tV|uH730f|uH730uV|uH730u[|uH730vB|uH730t6|uH730vt|uH730v3|u",
    "H730t+|uH730uz|uH730u5|uH730t1|uH730vQ|uH730x6|uH730tu|uH730tt|uH730u]|uH730n|uH730v5|uH730v(|uH",
    "730vj|uH730u?|uH730vR|o750F|o750t4|o750tb|o750tV|o750f|o750uV|o750u[|o750vB|o750t6|o750vt|o750v3",
    "|o750t+|o750uz|o750u5|o750t1|o750vQ|o750x6|o750tu|o750tt|o750u]|o750n|o750v5|o750v(|o750vj|o750u",
    "?|o750vR|o730F|o730t4|o730tb|o730tV|o730f|o730uV|o730u[|o730vB|o730t6|o730vt|o730v3|o730t+|o730u",
    "z|o730u5|o730t1|o730vQ|o730x6|o730tu|o730tt|o730u]|o730n|o730v5|o730v(|o730vj|o730u?|o730vR|oEvV",
    "|vDoV&1|vDoV%2|vDoV+1|vDoV*S|vDoV(1|vDoV)3|vDoV*)|vDoV)V|vDoV*p|vDoVws|ioEt0|ioEt3|ioEtC|ioEtQ|i",
    "oEtX|ioEt=|ioEuB|ioEt?|ioEuF|ioVvv|vDoEvV|twu8u2t*|twu8tTt*|twu8u2tJ|twu8tTtJ|twu8u2x9yct*|twu8t",
    "Tx9yct*|twu8u2x9yctJ|twu8tTx9yctJ|twu8u2(Lyct*|twu8tT(Lyct*|twu8u2(LyctJ|twu8tT(LyctJ|twu8u2t$PZ",
    "|twu8t$u2PZtT|twu8t$tTPZu2|twu8tTt$PZ|twu8u2t$Pc|twu8t$u2PctT|twu8t$tTPcu2|twu8tTt$Pc|twu8u2tjPZ",
    "|twu8tju2PZtT|twu8tjtTPZu2|twu8tTtjPZ|twu8u2tjPc|twu8tju2PctT|twu8tjtTPcu2|twu8tTtjPc|twu8u2tJPZ",
    "|twu8tJu2PZtT|twu8tjtTPZt$u2|twu8t$tTPZtju2|twu8tJtTPZu2|twu8t$u2PZtjtT|twu8tju2PZt$tT|twu8tTtJP",
    "Z|twu8u2tJPc|twu8tJu2PctT|twu8tjtTPct$u2|twu8t$tTPctju2|twu8tJtTPcu2|twu8t$u2PctjtT|twu8tju2Pct$",
    "tT|twu8tTtJPc|twu8u2t$Pt*|twu8ctTPZt$u2|twu8ZtTPct$u2|twu8t$u2Pt*tT|twu8t$tTPt*u2|twu8Zu2Pct$tT|",
    "twu8cu2PZt$tT|twu8tTt$Pt*|twu8u2tjPt*|twu8ctTPZtju2|twu8ZtTPctju2|twu8tju2Pt*tT|twu8tjtTPt*u2|tw",
    "u8Zu2PctjtT|twu8cu2PZtjtT|twu8tTtjPt*|twu8u2tJPt*|twu8ctTPZtJu2|twu8ZtTPctJu2|twu8tJu2Pt*tT|twu8",
    "tjtTPt$t*u2|twu8t$tTPtjt*u2|twu8tJtTPt*u2|twu8ctjtTPZt$u2|twu8ZtjtTPct$u2|twu8ct$tTPZtju2|twu8Zt",
    "$tTPctju2|twu8t$u2Ptjt*tT|twu8tju2Pt$t*tT|twu8Zu2PctJtT|twu8cu2PZtJtT|twu8tTtJPt*|twu8u2iyct*|tw",
    "u8tTiyct*|twu8u2iyctJ|twu8tTiyctJ|twu8it*|twu8itJ|twu8t$vmPZi|twu8t$iPZvm|twu8it$PZ|twu8t$vmPci|",
    "twu8t$iPcvm|twu8it$Pc|twu8tjvmPZi|twu8tjiPZvm|twu8itjPZ|twu8tjvmPci|twu8tjiPcvm|twu8itjPc|twu8tJ",
    "vmPZi|twu8tJiPZvm|twu8itJPZ|twu8tJvmPci|twu8tJiPcvm|twu8itJPc|twu8t$vmPt*i|twu8t$iPt*vm|twu8it$P",
    "t*|twu8tjvmPt*i|twu8tjiPt*vm|twu8itjPt*|twu8tJvmPt*i|twu8tJiPt*vm|twu8itJPt*|twu8u2#pt$PZ|twu8u2",
    "#pt$Pc|twu8u2#ptjPc|twu8u2#ptjPZ|twu8u2uft@ZtGt)c|twu8u2uft@ctGt)Z|twu8u2ufxg|twu8u2c|twu8u2tj|t",
    "wu8u2Z|twu8u2t$|twu8tTc|twu8tTtj|twu8tTZ|twu8tTt$|twu8u2cPtTZ|twu8u2tjPtTt$|twu8tTcPu2Z|twu8tTtj",
    "Pu2t$|t@t(t%|t)t0ymt%|t)t0yrt%|t)tC%Ct%|t)t(t%|t)tX%Ct%|t)tC%Rt%|t)uB%Ct%|xht%|cuB%Ct%|ctC%Rt%|c",
    "tX%Ct%|ct(t%|ctC%Ct%|ct0yrt%|ct0ymt%|Zt(t%|u2%V|u&%V|@JS%V|t@t0ymt%|Zt0ymt%|#2t)c|#2t)Z|#2t@c|#2",
    "t@cPt)cPt)Z|#2t@cPt)Z|#2t@cPt@ZPt)c|#2t@cPt@ZPt)Z|#2t@Z|#2t@ZPt)c|#2t@ZPt)cPt)Z|t7l|tEl|tEl2%U.l",
    "|tEl)Qt73l|l2t*$E|l2tJ$E|l2[Iq@J8$E|l2t@ctGt)Z$E|l2t@ZtGt)c$E|l2uf@J8$E|t73l|tE3l|t7)u|tE)u|t7tJ",
    ")u|tEtJ)u|t7@Qq|tE@Qq|t7tj-t[tm|tEtj-t[tm|t7tj-t[3tm|tEtj-t[3tm|t7Z-t[tm|tEZ-t[tm|t7Z-t[3tm|tEZ-",
    "t[3tm|t7Z-t[?.|tEZ-t[?.|t7t$-t[tm|tEt$-t[tm|t7t$-t[3tm|tEt$-t[3tm|t7c-t[tm|tEc-t[tm|t7c-t[3tm|tE",
    "c-t[3tm|t7c-t[?.|tEc-t[?.|t7x@|tEx@|tEx@)Qt73x@|@+z|&5|tEtx|yFtx|tx2tJ$E|@v?|t7tx|tx2ct(t7|tx2Zt",
    "(t7|tx2t)t(t7|tx2t@t(t7|tx2t@Z#2t7|tx2=P(mt@c#2t7|ct(t7tx|Zt(t7tx|(7%f|(7tEtx|t@t((7tEtx|t)t((7t",
    "Etx|t@c#2=i#p|t@Z#2=i#p|t)Z#2=i#p|t)c#2=i#p|t@t(tx|t)t(tx|t7t)Ztm|t7t)ctm|t7t@ctm|t7t@Ztm|tE%f|l",
    "2ct(t7|l2Zt(t7|l2t@cuft(t7|l2t)Zuft(t7|tEl2tJ@vGvL|tEtj-t[tm2tA|tj-t[tm2ct(t7|tj-t[tm2Zt(t7|vTtx",
    "|tEl2t@c#2|tEl2t)c#2|tEl2t)Z#2|tEl2t@Z#2|tEtx2t@c#2|tEtx2t)c#2|tEtx2t)Z#2|tEtx2t@Z#2|t@ctm|t@Ztm",
    "|t)ctm|tEu&l|t7u&l|tEu&3l|t7u&3l|t)Ztm|t7$_2(M|(p|@0e|@Ad|@!d|t7x8|tEx8|?W|[YR|$_|@Hc@P&|@6g@P&|",
    "@!u|@9P|t7&z|tE&z|%=tw|%=tw2%h|%=tw2vj|(Q|@0e2+:@(8|?7@H_|tE@3*)s|t7@3*)s|[SV|vcw%@71zc%f|t7ct[t",
    "&|t7Zt[t&|tEct[t&|tEtjt[t&|tEZt[t&|tEt$t[t&|@AXP@J7|@xB1|[OI1|@vB1|@Ie|@p*|[Ipxg|!m!Q|xgtS[54|xg",
    "tS@_Z|x8P.m|%mB|@ou[SS|@29P[TQ|@9dB|)[&%|+5h@2A|+5h@NO|+5h(4|+5h@B7|+5h(d|+5h%)|+5h*l|+5h$%|@4gt",
    "S@&1|tE@1^tv|tE#3tv|t7#3tv|tE$_2(M|)ayr!1|@8Fyr!1|@2*|.+1|$%|(+1|[0D|[Rf|@V5|@PZ|?+|@qM|[Xk|@:(|",
    "@w%|[4F|[d!|[4X|[Rx|[R3|@w@|@qF|[L3|tEvK$N|tEvK$Q|tEvK%x|tEvK%e|tEvKzK|tEvK&r|t7vK$N|t7vK$Q|t7vK",
    "%x|t7vK%e|t7vKzK|t7vK&r|t7@TO)$|tEzc)$|tEx@)$|t7@1V)$|tE@TO)$|t7zc)$|t7x@)$|tE@1V)$|?7[Ui|yr!f|y",
    "m!f|@1Cym?s|@1C*.?s|@2@zI1|@2@@8+1|@2@+@1|u7vdxg|w+vdxg|@V0(_B|(_Bh$X-v)+*|(_Bh$X-um+*|(_Bh$X-vo",
    "+*|(_Bh$X-wk+*|(_Bh$X-x4+*|(_Bh$X-y3+*|(_Bh$X-zP+*|(_Bh@:*[8c|t7@V0(_B|@R%@3KB|[J#-@R%@3KB|[KR@3",
    "K1|@BpB|*Itv-v)|*Itv-um|*Itv-vo|*Itv-wk|*Itv-x4|*Itv-y3|tEtx2tAZ|tEtx2t3p|t7tx2tEtAZ|t7tx2t3tEp|",
    ")nh&%|)nh)[|)Thw=&%|)Th@Nj)[|)Th@Nj&%|)Thw=)[|tE$h|t7$h|@29P@Q^|@HI|#K[WG|*:tS@o*|[Rq|@H8|=+|@7G",
    "|*:tS@@p|@q&B|@+:-#7-@Nv|*wtEx8|tC@8O@J0Z|tC@8O@J0c|[e(1|uA[d?1|=v.+1|=v(+1|@^?.+P(+1|(+P.+1|(+2",
    "tM1|(+2tMP(+P.+1|tJ(+2tM1|t*(+2tM1|u&tEtx|u&t7tx|u&3tEtx|[8OB|@&tB|[by@QsB|@!U|@.W[b=|[C:|@xr|[J",
    "M|[07|[de|@yK|t7!1[4j|[SJ|[R]|[NU|[S9|[T^&T|@u9|ty)k|tE@1r#U|tE@1r$N|t7@1r#U|t7@1r$N|@Ad@0i@Ab|$",
    "_@5t(p|+:|t7@Ad|@B7(pP+:|ultE@3*)s|ult7@3*)s|tEx@w*l|zZ@NS|@&f*C|[Ih|@Q^|*C[T$|@2C2tExg|ozZ@NS|@",
    "xw|xo=!|yht0-+Cc+C@0V|t7t3-+Cc+C@0V|tEt3-+Cc+C@0V|t7c@NR@O$|tEc@NR@O$|@J^@T91|tTtEt$-t[tm|cy5=!|",
    "ty(Q|&_ufw*tEtxw*t7l|t7@BO|@R?c=!-v)|@R?c=!-um|@quBh@V5|tTtx2tMPt3pg|@3Q|Z-@Ls@MR@3Q|c-@Ls@MR@3Q",
    "|wu@3Q|t7xgwi@AM|[Sw[S]|@I)|@5@|@@_[Tl|@7G@0i@]T|@7G2@@C|?XBh[4g|*l|@0ewi@Ld|@K.|$hw*@L[|@+g|[R6",
    "|ltQ.l|[To|*W@T5|#V2&T|@A^|*Y@5nB|@Lx@?NB|@.S[MN|#twit7l|tE$h2t*tRt7[Vl|t7@A4:w|t@@IA:w|t7:w|t)@",
    "IA:w|tE:w|tEtT%hj|&z((1|@T=@J^|*0|)X|zLuW|zLtB|@VDtB|@VitB|t)Z@3P|@3P|t@Z@3P|tE@Ps|t7@Ps|%hj|tT%",
    "hj|&Avj|tT&Avj|%=vj|tT%=vj|*waxg|tTaxg|ujwvxg|tTujwvxg|7xg|$7tE7xg|*w7xg|[83xg|x8tS@%3|tQ)%-!Ay4",
    "|tQ.W-!Ay4|tTtQ.W-!Ay4|tQ@1V-!Ay4|t7tQy(x8|tEtQy(x8|[UL|@0K*wtEx8|otEx8|ujwvt7x8|t7wvtEx8|*wt7x8",
    "|tT*wt7x8|)tx8|$7tEx8|tTy4|ujwvy4|t?!Ay4|t?y(t7x8|t?y()tx8|t=y(t7x8|t?y(@R$t7x8|tTt?y(@R$t7x8|%2",
    "y(t7x8|)3y(y4|)%-!Ay4|ujwv)%-!Ay4|tT)%-!Ay4|t=@Q:t7PtE@1.|t7@1.|tE@1.|t?@Q:*wt7@1.|oujwvt?y(x8|t",
    "T)%-!A)ty4|@Ac|@BA[ZS@Ac|tT@I%@Ac|@TP|tT@TP|.W-!Ay4|t?)%-!A@RQy4|tTt?)%-!A@RQy4|xgj|$7tEtx|vDtyx",
    "gj|t)Z@6q-$7tEl|t@Z@6q-$7tEl|t)Z$7tEl|t@Z$7tEl|t7!6jw$|tE!6jw$|tE!njw$|t7x@!ctEvj|tT!njB|u2tJu0|",
    "u&tJu0|tTtJu0|tTvmulx0z(jw$|tTvmx0z(jw$|tTiulx0z(jw$|tTix0z(jw$|tTt_vmx0z(jw$|tTt_ix0z(jw$|#u#k?",
    "$1w$|tT!njw$|tTzc!njw$|tTt7zc|w%tTt7zc%f|@71zc|w%@71zc%f|u&cy8w$|u&Zy8w$|u&=)cy8w$|u&=)Zy8w$|u&c",
    "-t[v+uGw$|u&Z-t[v+uGw$|tTc-t[v+z(jw$|tTZ-t[v+z(jw$|tTc-t[v+uGw$|tTZ-t[v+uGw$|u2c!$zhuGw$|u2Z!$zh",
    "uGw$|u&cz1uGw$|u&Zz1uGw$|zbvDoEt0|zbvDoEt3|zbvDoEtC|zbvDoEtQ|zbvDoEtX|zbvDoEt=|zbvDoEuB|zbvDoEt?",
    "|zbvDoEuF|zbvDoVvv|zbos-qEt0|zbos-qEt3|zbos-qEtC|zbos-qEtQ|zbos-qEtX|zbos-qEt=|zbos-qEuB|zbos-qE",
    "t?|zbos-qEuF|zbos-qVvv|zbvDos-qEt0|zbvDos-qEt3|zbvDos-qEtC|zbvDos-qEtQ|zbvDos-qEtX|zbvDos-qEt=|z",
    "bvDos-qEuB|zbvDos-qEt?|zbvDos-qEuF|zbvDos-qVvv|tTxf-u9tlQ|tTts1|tT!c1|tT*J1|tTvUw+Q|tTtlQ|tTu+w+",
    "Q|@(4!gtlQ|tT$:-[YttlQ|tm-u9tlQ|tTtm-u9tlQ|%^tm-u9tlQ|tT%^tm-u9tlQ|t7tlQ|tC-tVxx-:Otlw6|tC-tVyw-",
    ":Otlw6|t7tlw6|tTt7#uu%PtlQ|tTt7#uu:PtlQ|@TXt7tlQ|tT@1W-y(t7tlQ|Z-)1tEtlQ|c-)1tEtlQ|%7-:[$7tEtlQ|",
    "&3-:[$7tEtlQ|tTt)Z-$7tEtlQ|tTt@Z-$7tEtlQ|(:t)Z-$7tEtlQ|z1!Z|(:t@Z-$7tEtlQ|otTtEtlQ|tE-+ftlQ|t7-+",
    "fvUw+Q|t7-+ftlQ|t7-+fu+w+Q|tTt7-+fvUw+Q|tTt7-+ftlQ|tTt7-+fu+w+Q|)%-@u3tlQ|tT)%-[SWtlQ|@Bm-$VtlQ|",
    "tT@Bm-$VtlQ|uj-*wtlQ|iz1!Z|tC@&Vv+|tEtm)Q3tEtm|@9h|uj!z|uj!!|ctt-%!@17@1f|Ztt-%!@17@1f|vM2tA$3|#",
    "i#4@RL!z|!!@RL#4|tJu02t*tM|C%Suf|ug*J|C&_uf|tyz^P|tyz^vM|tEx@2)MtA|P2tA|&0tS+(u:|t)Zy=2tA|t@cy=2",
    "tA|c@9R@2P|Z@9R@2P|xh@9R@2P|vTtjzF|vTt$zF|cPZi+8|cPZzF|c@8!|ugZzF|ugczF|tjzF2txg|&5@6k&Vt*@SF|tE",
    "@1W-@ASx@|tE@1W-@ASx@2t:)7|tE@1W-@ASx@2tl)7|tEl2t:)7|tEl2tl)7|CctEluG|CZtEluG|Ccv+uG|CZv+uG|Cciv",
    "+uG|CZiv+uG|CctE!$zhuG|CZtE!$zhuG|Cc=)y8|CZ=)y8|u:(LQ|u%(LQ|#I@L7txQ|$$@L7txQ|ZQ2ots|ugt:Q|ugtlQ",
    "|ugcZQ|ugt:iQ|ugtliQ|ugcZiQ|ugt:Qz3u0|ugtlQz3u0|ugt:iQz3u0|ugtliQz3u0|ugtl@43Q|tLtK@IB|tLtKp-v)|",
    "tLtKp-um|tLtKp-+G|tLtKp-vo|tLtKp-+H|tLtKp-=J|tLtKp-@0s|tLtKp-wk|tLtKp-+I|tLtKp-=K|tLtKp-@0t|tLtK",
    "p-@5A|tLtKp-@0w|tLtKp-@0$|tLtKp-@CU|tLtKp-x4|tLtKp-.M|tLtKp-@0*|tLtKp-@0u|tLtKp-@5F|tLtKp-@4(|tL",
    "tKp-@0%|tLtKp-@CX|tLtKp-@0=|tLtKp-@0y|tLtKp-@0)|tLtKp-@Ca|tLtKp-@5B|tLtKp-@Ci|tLtKp-@Do|tLtKp-@C",
    "V|tLtKp-y3|tLtKp-.N|tLtKp-@0.|tLtKp-@0v|tLtKp-@0:|tLtKp-@0x|tLtKp-@0&|tLtKp-@CZ|tLtKp-@5M|tLtKp-",
    "@0z|tLtKp-@56|tLtKp-@Cc|tLtKp-@5C|tLtKp-@Ck|tLtKp-@Dq|tLtKp-@CW|tLtKp-@5U|tLtKp-@0!|tLtKp-@0+|tL",
    "tKp-@Cd|tLtKp-@5G|tLtKp-@Cl|tLtKp-@Dr|tLtKp-@CY|tLtKp-@5K|tLtKp-@Cs|tLtKp-@Dy|tLtKp-@Cb|tLtKp-@E",
    "0|tLtKp-@Cj|tLtKp-@Dp|tLtKp-@XT|tLtKp-zP|tLtKp-=I|tLtKp-@59|tLtKp-@4$|tLtKp-@5H|tLtKp-@4)|tLtKp-",
    "@55|tLtKp-@Xp|tLtKp-@5N|tLtKp-@4.|tLtKp-@57|tLtKp-@X#|tLtKp-@5D|tLtKp-@Y5|tLtKp-@Yf|tLtKp-@Xd|tL",
    "tKp-@EU|tLtKp-@4=|tLtKp-@D)|tLtKp-@X*|tLtKp-@E1|tLtKp-@YB|tLtKp-@Yl|tLtKp-@Xj|tLtKp-@5L|tLtKp-@Y",
    "K|tLtKp-@Yv|tLtKp-@Xv|tLtKp-@Z?|tLtKp-@X_|tLtKp-@YZ|tLtKp-@XX|tLtKp-@Eb|tLtKp-@4@|tLtKp-@D:|tLtK",
    "p-@X:|tLtKp-@E3|tLtKp-@YD|tLtKp-@Yo|tLtKp-@Xm|tLtKp-@EF|tLtKp-@YN|tLtKp-@Yy|tLtKp-@Xy|tLtKp-@Z]|",
    "tLtKp-@Y2|tLtKp-@Yc|tLtKp-@Xa|tLtKp-@ES|tLtKp-@YR|tLtKp-@Y$|tLtKp-@X&|tLtKp-@a8|tLtKp-@Y8|tLtKp-",
    "@Yi|tLtKp-@Xg|tLtKp-@bN|tLtKp-@YH|tLtKp-@Ys|tLtKp-@Xs|tLtKp-@Z.|tLtKp-@X[|tLtKp-@YW|tLtKp-@XU|tL",
    "tKp-#*|tLtKp-.O|tLtKp-@D@|tLtKp-@4%|tLtKp-@5I|tLtKp-@4*|tLtKp-@0(|tLtKp-@Xr|tLtKp-@5O|tLtKp-@4:|",
    "tLtKp-@58|tLtKp-@X%|tLtKp-@5E|tLtKp-@Y7|tLtKp-@Yh|tLtKp-@Xf|tLtKp-@EW|tLtKp-@4?|tLtKp-@D*|tLtKp-",
    "@X.|tLtKp-@E2|tLtKp-@Cm|tLtKp-@Yn|tLtKp-@Xl|tLtKp-@EE|tLtKp-@YM|tLtKp-@Yx|tLtKp-@Xx|tLtKp-@Z[|tL",
    "tKp-@Y1|tLtKp-@Yb|tLtKp-@XZ|tLtKp-@Ed|tLtKp-@4[|tLtKp-@D=|tLtKp-@X?|tLtKp-@E4|tLtKp-@YF|tLtKp-@Y",
    "q|tLtKp-@Xo|tLtKp-@EG|tLtKp-@YP|tLtKp-@Y!|tLtKp-@X!|tLtKp-@Z_|tLtKp-@Y4|tLtKp-@Ye|tLtKp-@Xc|tLtK",
    "p-@ET|tLtKp-@YT|tLtKp-@Y&|tLtKp-@X)|tLtKp-@aA|tLtKp-@YA|tLtKp-@Yk|tLtKp-@Xi|tLtKp-@bP|tLtKp-@YJ|",
    "tLtKp-@Yu|tLtKp-@Xu|tLtKp-@Z=|tLtKp-@X^|tLtKp-@YY|tLtKp-@XW|tLtKp-@Eg|tLtKp-@4]|tLtKp-@D?|tLtKp-",
    "@X@|tLtKp-@E5|tLtKp-@YG|tLtKp-@Yr|tLtKp-@Xq|tLtKp-@EI|tLtKp-@YQ|tLtKp-@Y#|tLtKp-@X$|tLtKp-@a0|tL",
    "tKp-@Y6|tLtKp-@Yg|tLtKp-@Xe|tLtKp-@EV|tLtKp-@YU|tLtKp-@Y(|tLtKp-@X+|tLtKp-@aB|tLtKp-@YC|tLtKp-@Y",
    "m|tLtKp-@Xk|tLtKp-@bQ|tLtKp-@YL|tLtKp-@Yw|tLtKp-@Xw|tLtKp-@Z@|tLtKp-@Y0|tLtKp-@Ya|tLtKp-@XY|tLtK",
    "p-@Ec|tLtKp-@YV|tLtKp-@Y?|tLtKp-@X=|tLtKp-@aK|tLtKp-@YE|tLtKp-@Yp|tLtKp-@Xn|tLtKp-@bZ|tLtKp-@YO|",
    "tLtKp-@Yz|tLtKp-@Xz|tLtKp-@Z^|tLtKp-@Y3|tLtKp-@Yd|tLtKp-@Xb|tLtKp-@cy|tLtKp-@YS|tLtKp-@Y%|tLtKp-",
    "@X(|tLtKp-@a9|tLtKp-@Y9|tLtKp-@Yj|tLtKp-@Xh|tLtKp-@bO|tLtKp-@YI|tLtKp-@Yt|tLtKp-@Xt|tLtKp-@Z:|tL",
    "tKp-@X]|tLtKp-@YX|tLtKp-@XV|tlt3-u9Q2tJtM|tlt3-u9Q2itJtM|t:iQ2tJtM|tliQ2tJtM|cZiQ2tJtM|tlt3-u9Qz",
    "3u0|t:iQz3u0|tliQz3u0|u%Q2t*tM|u:Q2t*tM|u:x9Q|u%x9Q|t:iycQ|tliycQ|t:x9ycQ|tlx9ycQ|tlt3-u9x9ycQ|t",
    "lQ2yF#k|u:QtGu0|u%QtGu0|tlQ2wK2tJtM|tlQ2wK2itJtM|tlt3-u9Q2wK|tlt3-u9Q2wK2tJtM|tlt3-u9Q2wK2itJtM|",
    "t:Q-wK|tlQ-wK|t:iQ-wK|tliQ-wK|t:QtGt7x@|tlQtGt7x@|t:Qz3u0tGt7x@|tlQz3u0tGt7x@|u+u7PvUw+Q|u+w+PvU",
    "u7Q|u+u7Q2tW|u+w+Q2tW|vUw+Q2tW|vUu7Q2tW|u+u7QPu+w+Q|u+w+QPvUw+Q|vUw+QPvUu7Q|vUu7QPu+u7Q|%SufzZ&_",
    "uf|&_ufzZ%Suf|vUw+QzZu+w+Q|u+w+QzZvUw+Q|&_ufzZu+w+Q|%SufzZvUw+Q|u+w+QzZu+u7Q|u+u7QzZu+w+Q|zWQt[@",
    "JzZ|Qt[tl)(=ou:|Qt[tl)(=ou%|Qt[u%)(=ot:|Qt[u%)(=otl|Z-y+#p$$Q|c-y+#p#IQ|xx#p#IQ|yw#p#IQ|xx#p$$Q2",
    "!c|xx#p#IQ2ts|t)Z@AG$$Q|t)c@AG#IQ|#Iy5txQ|$$y5txQ|tlQgv:t:Q|t:Qgv:tlQ|v:tlQgt:Q|tlQ2tst9|t:Q2tst",
    "9|tlQ%Xvj|cZQ%X3tx|u:t3-u9Qz33tx|cu)tjZu)t$w(|cu)t$Zu)tjw(|tju)Zt$u)cw(|tju)ct$u)Zw(|cu)tjZu)tjw",
    "(|tju)Zt$u)Zw(|cu)t$Zu)t$w(|tju)ct$u)cw(|t:w(2u)tjtGu0|tlw(2u)tjtGu0|u:w(2u)ZtGu0|u%w(2u)ZtGu0|t",
    ":w(2u)t$tGu0|tlw(2u)t$tGu0|u:w(2u)ctGu0|u%w(2u)ctGu0|t:w(2u)tjz3u0|tlw(2u)tjz3u0|u:w(2u)Zz3u0|u%",
    "w(2u)Zz3u0|t:w(2u)t$z3u0|tlw(2u)t$z3u0|u:w(2u)cz3u0|u%w(2u)cz3u0|t:w(2u)tjgt:w(2u)t$|u:w(2u)c&=u",
    ":w(2u)Z|tlw(2u)tjgtlw(2u)t$|u%w(2u)c&=u%w(2u)Z|t:w(2u)tjgtlw(2u)tj|t:w(2u)t$gtlw(2u)t$|tlw(2u)tj",
    "gt:w(2u)tj|tlw(2u)t$gt:w(2u)t$|t:w(2u)tjgugyc|t:w(2u)t$t9ugyc|tlw(2u)tjgugyc|tlw(2u)t$t9ugyc|u:w",
    "(2u)c&=u%w(2u)Z|u%w(2u)c&=u:w(2u)Z|ZiQ2%Uz@|z21gtlQ|u(x^gtlQ|t:Qgu(x^|tlQgu(x^|tlQg$yustG|x1-uXg",
    "t:Q|t:Q%Xx1-uX|w=-uXgtlQ|!zgtlQ|t:Q%X!z|!!gt:Q|c(wwK|Z(wwK|tj(wwK|t$(wwK|x9tJu0@1f|vRw1[Ue|vRw1$",
    "XzY|ctEz1uG|ZtEz1uG|ctEy8|ZtEy8|vRw1c)huG|vRw1Z)huG|vRw1c@I5uG|vRw1Z@I5uG|cluG2!@|ZluG2!@|cluG2)",
    "7w*xxy=|ZluG2)7w*ywy=|cluG2)7w*ywy=|ZluG2)7w*xxy=|cv+uG2tA|Zv+uG2tA|c#px1-uXuG|Z#pw=-uXuG|ic#pw=",
    "-uXuG|iZ#px1-uXuG|ct7!$zhuG|Zt7!$zhuG|yF=%|tJ&)vL|&lv++(c|Zv+zi2l|&lZv+2tA|v+2tt$3|v6v+|@Ahv++(c",
    "|@Ahv++(tj|ulv+|vcv+|v+2!@|vcv+2!@|$pv++(tj|$pv++(t$|&lv+2uj#J*Ow*Qt[tjPZ|&lv+2uj#J*Ow*Qt[tjPc|&",
    "lv+2uj#J*Ow*Qt[t$PZ|&lv+2uj#J*Ow*Qt[t$Pc|&lv+2uj#J*Ow*Qt[ZPtj|&lv+2uj#J*Ow*Qt[cPtj|&lv+2uj#J*Ow*",
    "Qt[ZPt$|&lv+2uj#J*Ow*Qt[cPt$|vc%E)z|%E)z2&D|%E)z23txg|%E)z2ZQg|%E)z2cQg|tx2t*u0|otJu0|o(?|o#i#4|",
    "o@9h|tx@6k&Vt*u0Pxxt(@6k&VtJu0|tx2[V]vj|o#I-w%*J1|tjQ%Xtx|otE%f|o%f|ox1-uX|ow=-uX|tx23txtGyOZ|tx",
    "2t3t*@AxtGyOZ|ty%Suf$]|ty&_uf$]|tyy4|ty3tx|tyl|t3?I@42|tm2tAg|tm2!@|ttw*tm|tm2@3!!Uyw|Ztmgctm|ct",
    "m&=tJu0|tJu0&=Ztm|@1H2ct(t7|@1H2Zt(t7|t7@1H|N2ct(t7|N2Zt(t7|tE@2E|t7@2E|c=B=%|Z=B=%|ci=B=%|Zi=B=",
    "%|@^u:7|:@uR:7|:7@PX2tJu0|i-@)p@8!|l2@!#[I!|@^v#q|[T5&I|z21P!R(?|z21P!R(?2u(g|@2ItGP!R(?|@=:[VE|",
    "[YB|t$-t[tm2ct(t7|t$-t[tm2Zt(t7|t7x@2t$Q|t7&5|tEtx2t$Q|t7tx2t$Q|.(-$!tEl|.(-$!t7l|.(-$!tEx@|.(-$",
    "!t7x@|.(-$!tEtx|.(-$!t7tx|@SF-@%q|#i#4x^|#42&D|#i#42t*tM|%9#4|%9#i#4|its|x9ts|c-t[#uv+uG|Z-t[#uv",
    "+uG|@0T|[A2|u5-$botAx^|u5-$botsx^|u5-$boNx^|u5-$b#)x^2tA|u5-$b#)x^2ts|u5-$bl$Kx^|u5-$bl#)x^|t3z^",
    "Px^|t3z^vMx^|u5-$bNx^|[AJt3:*|@0L2!&|(L!&x^|@+t@9a!&|!&2itM|!&@r42$]|@yy@7A|#I@2L|vL@2L2@R#?&@13",
    "?:|vL@2L2@AG?&@13?:|vL@2Lwx@^syO?:|!&@13F!gx^|[NN!&x^|!&2t:Q2tW|!&2N1|!&2$K|!&2#)|!&2&D|!&2!@|@2",
    "P|vTctmx^|vRw1@A9@6A|vRw1@A9[K_|vRw1@A9[M1|ts123txg|ts12v.wfg|ts12u(g|ts12tAt9|ts12u(t9|ts12yut3",
    "|ts12t7tm|!c12x0g|!c12tAt9|!c12&_p|!c12%Sp|ts1w*ct(tx|ts1w*Zt(tx|[dVvMxg&I|&A12tAg|&A12!@|@0D&I2",
    "ywy5|@TC&I|&A1w*ct(tx|&A1w*Zt(tx|o&A12v.wf|&A1w*itx|o*J1|ts1w*tm|!c1w*tm|&A1w*tm|@MQ&I|[PC@MQ&I|",
    "vRw1[Oy@6A|@pevM@J2|$K2tA|#)2!c1|#)2&D|$K2&D|$K2z^P|#)2z^vM|#)g$K|$Kg#)|#)gu0g$K|$Kgu0g#)|#)&=P?",
    "I2#)|$K&=P?I2$K|y5#)2@3!|y5$K2@3!|il$K|il#)|y5#)2@3!P@TC&I|z^P2tAg|z^vM2tAg|iz^P|iz^vM|t3@MTz^P|",
    "t3@MTz^vM|@T8vTvM|@T8vTP|z^vM?zz^P|z^P2tR#k|z^vM2tR#k|z^P2t*yc|z^vM2t*yc|z^P2i&D|z^P2!@|z^P2i!@|",
    "3+92!@|z^vM2i&D|z^vM2i!@|vRw1@&@@HO|vRw1@01@HO|z212tAt9|@2I2tAg|x9t*u02itJtM|x9t*u02x9tJtM|u(x^2",
    "tAg|u(x^2%Sp|)2!c)2|@!r2tAg|z22y4|$yustG2v.wf|.TusvMustG|z21gts1|ts1gz21|z21gu(x^|izYus|t3@I_z2@",
    "S@|tC@I_z2@S@|z212t3pgPt3pt9|%F2tQpg|x1-uX2tx$3|w=-uX2tx$3|x1-uX2!6jg|w=-uX2!6jg|x1-uXvM!RustG|w",
    "=-uXvM!RustG|x1-uXvM!RustG2tA$3|w=-uXvM!RustG2tA$3|x1-uXvM!RustG2tAg|w=-uXvM!RustG2tAg|x1-uXvM!R",
    "ustG2tAgZ|w=-uXvM!RustG2tAgc|x1-uXvM@11|w=-uXvM@11|x1-uXPvm-vLwxustG|w=-uXPvm-vLwxustG|x1-uXPwx@",
    "11|w=-uXPwx@11|x1-uXgi-vLusgw=-uX|w=-uXgi-vLusgx1-uX|x1-uXg)2vMus|w=-uXg)2vMus|x1-uXg)2gw=-uX|w=",
    "-uXg)2gx1-uX|x1-uXgw=-uXgi-vLus|w=-uXgx1-uXgi-vLus|x1-uXg!Rusgw=-uXg!Rus|w=-uXg!Rusgx1-uXg!Rus|!",
    "RustGvMx1-uX|!RustGvMw=-uX|!RustGvMx1-uX2tA$3|!RustGvMw=-uX2tA$3|i-vLustGvMx1-uX|i-vLustGvMw=-uX",
    "|i-vL!RustGvMx1-uX|i-vL!RustGvMw=-uX|)2vMx1-uX|)2vMw=-uX|)2gx1-uXgz21|)2gw=-uXgz21|i?lx1-uX|i?lw",
    "=-uX|i?lx1-uX2!@|w=-uX?zx1-uX|w=-uX&=x1-uX|x1-uXy5&Vyx|w=-uXy5&Vyx|x1-uXy5&Vyxg!Rus|w=-uXy5&Vyxg",
    "!Rus|@TBuX|@NVuX|@TBuXvMustG|@NVuXvMustG|z212@v@g|&Hgvm-vLz21|&Mgvm-vLz21|&Hgvm-vLwxustG|&Mgvm-v",
    "LwxustG|&Hgz21|&Mgz21|&HgwxustG|&MgwxustG|&Hg$yustG|&Mg$yustG|&Hgwx$yustG|&Mgwx$yustG|i&H|i&M|!z",
    "2tA|!!2tA|!z2ts1t9|!!2ts1t9|!z2&A1t9|!!2&A1t9|!ztSvMustG2tAg|!!tSvMustG2tAg|!ztSgz21|!!tSgz21|!z",
    "tSgu(x^|!!tSgu(x^|!ztSg$yustG|!!tSg$yustG|!ztSgwxustG|!!tSgwxustG|lcujtwx^|lZujtwx^|y5!z|y5!!|y5",
    "!zvMustG|y5!!vMustG|!zg!!|!!g!z|!zg!z|!!g!!|!!&=!z|!!&=P?I&Vyc2!z|&0tS+(u%|@R72:?xx|[ZJ$K|@.C|[F",
    "3|v:czF|v:t$zF|v:tjzF|@9h2tt|tJu0x9Z+8|itJu0c+8|tJu0ic+8|itJu0ic+8|ugycz3c@2)tSitJ|v:t$zF2&D|v:t",
    "jzF2!@|v:tjzFgv:t$zF|it$zF|itjzF|itMwx1|vcitMwx1|&Zwx@6j2vc[C#$]|tJvL2txg|tJvL2txt9|t$zF2txt9|(?",
    "2t*tM|(?2u(x^|x9tJu0@I3@3p|x9tJu02t*tM|x9zYx^|x9?lx1-uX|x9?lw=-uX|i-vL!Rx1-uXvMustG|i-vL!Rw=-uXv",
    "MustG|x9#4@I3@3p|vTx9tJu0x^|i#4x^|tEtJu0|u5-$btEtJu0|u+w+tEQ|u+u7tEQ|vUw+tEQ|vUu7tEQ|cZtEQ|t:t7Q",
    "|u:t7Q|u%t7Q|u+w+t7Q|u+u7t7Q|vUw+t7Q|vUu7t7Q|cZt7Q|tjt$t7Q|tlQ2#mu%|tlQ2#mu:|t:Q2#mu%|t:Q2#mu:|l",
    "2xxt(t7|l2ywt(t7|l2t@Zuft(t7|l2t)cuft(t7|x@2ct(t7|x@2Zt(t7|x@2xxt(t7|x@2ywt(t7|yFl|t7vTl|tEvTl|t",
    "7zu3l|tEzu3l|t7?)|tE?)|tE@7c|t7@7c|t*t7@7c|t7vTtx|t7u&x@|tEu&x@|t7u&&5|tEu&&5|t73x@|t73&5|tE3&5|",
    "t7t*@1!|tEt*@1!|t7tJ@1!|tEtJ@1!|cQ23tx|tCt:$a|cQ2ots|ugt:@43Q|t:t3-u9Q2tJtM|t:t3-u9Q2itJtM|t:t3-",
    "u9Qz3u0|t:t3-u9x9ycQ|t:Q2yF#k|t:Q2wK2tJtM|t:Q2wK2itJtM|t:t3-u9Q2wK|t:t3-u9Q2wK2tJtM|t:t3-u9Q2wK2",
    "itJtM|t:Q%Xvj|zWQt[@Jzc|z21gt:Q|#iu(x^gt:Q|t:Qg#i$yustG|tlQ%Xw=-uX|tlQ%X!!|t:(LQ|tl(LQ|#iu(x^gtl",
    "Q|tlQg#i$yustG|u(x^gt:Q|t:Qg$yustG|t:Qg#iu(x^|tlQg#iu(x^|u%tm-u9&)Q|v:!Ru+Q|v:@5lvUQ|tEu&x8|t73x",
    "8|tE3x8|t7Z-t[?)|tEZ-t[?)|tTvTtx|tT&C2&C$3|tTtx2tx$3|tTtx|tTo(Q|!Ru+Q2:3z@|@5lvUQ2:3wK|!Ru+Q2t*w",
    "K|@5lvUQ2t*wK|zxQt[u%)(u+w+|v:zxQt[u%)(u+w+|t:tm-u9Q|u:tm-u9Q|tltm-u9Q|u%tm-u9Q|cZtm-u9Q|tjt$tm-",
    "u9Q|u+u7tm-u9Q|u+w+tm-u9Q|vUw+tm-u9Q|vUu7tm-u9Q|t:tm-u9%^Q|u:tm-u9%^Q|tltm-u9%^Q|u%tm-u9%^Q|$$tm",
    "-u9ujtxQ|#Itm-u9ujtxQ|t:tm-u9QtGu0|u:tm-u9QtGu0|tltm-u9QtGu0|u%tm-u9QtGu0|u+u7tm-u9QtGu0|u+w+tm-",
    "u9QtGu0|vUw+tm-u9QtGu0|vUu7tm-u9QtGu0|t:tm-u9Q2it*tM|u:tm-u9Q2it*tM|tltm-u9Q2it*tM|u%tm-u9Q2it*t",
    "M|t*)5)k|tJ)5)k|t:tm-u9QuRtltm-u9Q|u:tm-u9Qt:tSu%tm-u9Q|tltm-u9QuRt:tm-u9Q|u%tm-u9Qt:tSu:tm-u9Q|",
    "t:tm-u9*y$a|u:tm-u9*y$a|tltm-u9*y$a|u%tm-u9*y$a|t:t7otEQ|u:t7otEQ|tlt7otEQ|u%t7otEQ|#Itm-u9Zn-%!",
    "Q|#Itm-u9ywn-%!Q|#Itm-u9cn-%!Q|#Itm-u9xxn-%!Q|@04c|@04Z|@8]c|@8]Z|tQy=$a@I+#I|tlt7Q|Bh$XF@)b|tC-",
    "tVxx-:Ot:!_w6|tC-tVZ-:Ou:!_w6|tC-tVxx-:Otl!_w6|tC-tVc-:Ou%!_w6|t7t:!_w6|t7u:!_w6|t7tl!_w6|t7u%!_",
    "w6|u%tm-u9Q2ug#mt:|u%tm-u9Q2ug#mtl|u:tm-u9Q2ug#mt:|u:tm-u9Q2ug#mtl|t:tm-u9Q2ug#mu:|tltm-u9Q2ug#m",
    "u:|t:tm-u9Q2ug#mu%|tltm-u9Q2ug#mu%|t7#uu%Pt:Q|t7#uu%PtlQ|t7#uu:Pt:Q|t7#uu:PtlQ|t7#ut:Pu:Q|t7#utl",
    "Pu:Q|t7#ut:Pu%Q|t7#utlPu%Q|(NQt$c|(NQt$Z|(NQtjc|(NQtjZ|(NQctj|(NQZtj|(NQct$|(NQZt$|u:tEQz3u02t*u",
    "0|tjw6w*F)utw|?ztE@42|?ztEPt7@42|?zt7@42|%=tw2u2vj|ovj|oRvj|t7l)M|t7x@)M|ult7?)|t*t7@QH|t7@QH|t7",
    "u&tj-t[tm)M|t7u&t$-t[tm)M|t7u&c-t[tm)M|t7u&Z-t[tm)M|@PZGt3|xxt(t7tx|ywt(t7tx|u2tQy(t7@1Z|w%u2tQy",
    "(t7@1Z|tEtQy(@1Z|w%tEtQy(@1Z|l:mzR|[bn1|@Lej|?+Gt3|?+GtC|?+GtQ|?+GtX|[ZI|[M7|@qt|@]+|[Kq|[C*|tE!",
    "1[R@|t7x@wixg|@BPu2!1@qZ|@#P|@?=|[ia|[2n|@q6|@ov|[e6|[Lj|ct(t7x8|Zt(t7x8|x82ct(t7|x82Zt(t7|t:t3-",
    "u9Q2tm@14|u:t3-u9Q2tm@14|tlt3-u9Q2tm@14|u%t3-u9Q2tm@14|@KfGt0|@KfGt3|[R.|:s)FB[dv|:s)FB[FB|:s)FB",
    "[NW|:s)FB@vA|:s)FB[S0|:s)FB[ZN|z212:7t9|[bvB|[S4B|=vB|[J)B|vcZv+|@@j[J^B|uL50@5k|uL50@5(|uL50@Be",
    "|uL50@7O|uL50@6o|uL50@B%|uL50@B?|uL50@1u|uL50@B:|uL50:9|uL50tc:9|uL50t6|uL50@6m|uL50@7+|uL50@8Q|",
    "uL50?f|uL50@8*|uL50@9N|uL50@9p|uL50@9^|uL50@AZ|uL50@BV|uL50@Ba|uL50@78|uL50@7b|uL50@QZ|uL50x_|uL",
    "50@AQ|uL50.G|uL50=h|uL50wI|uL50(f|uL50@4n|uL50@B#|uL50@TUt]|uL50xJ|uL503zw|uL503zw2wK|uL50xX|uL5",
    "0:83zw|uL50%9zw|uL50:8%9zw|uL50+h|uL50:A|uL50@S%|uL50@UjF|uL50@NX?f|uL50@Im=h|uL30@5k|uL30@5(|uL",
    "30@Be|uL30@7O|uL30@6o|uL30@B%|uL30@B?|uL30@1u|uL30@B:|uL30:9|uL30tc:9|uL30t6|uL30@6m|uL30@7+|uL3",
    "0@8Q|uL30?f|uL30@8*|uL30@9N|uL30@9p|uL30@9^|uL30@AZ|uL30@BV|uL30@Ba|uL30@78|uL30@7b|uL30@QZ|uL30",
    "x_|uL30@AQ|uL30.G|uL30=h|uL30wI|uL30(f|uL30@4n|uL30@B#|uL30@TUt]|uL30xJ|uL303zw|uL303zw2wK|uL30x",
    "X|uL30:83zw|uL30%9zw|uL30:8%9zw|uL30+h|uL30:A|uL30@S%|uL30@UjF|uL30@NX?f|uL30@Im=h|750t+2iu0|730",
    "t+2iu0|750t+2tRu(|750vQ2tM|750tu2wK|730F2tM|730u]2uftM|750vB2yl|730vB2yl|750v32yl|730v32yl|750vR",
    "2yl|730vR2yl|750wS|750uz2tW|750ulF|750ulwS|730v52ZtW|750v(2tW|730v(2tW|730v52#L|750t(vB|730t(vB|",
    "730[XN!.|730f2@P)|730ultu2wK|730t12t_uk$3|7035ulf|7yu30vt|t805v5|750tt2:.wK|750vR2:.wK|to50@HA|t",
    "o30@HA|to50@VE|to30@VE|to50#O|to30#O|to50@JO|to30@JO|to50@1x|to30@1x|to50@TM|to30@TM|to50@4u|to3",
    "0@4u|to50@Lv|to30@Lv|to50@UF|to30@UF|to50@ME|to30@ME|to50@2T|to30@2T|to50@NY|to30@NY|to50y]|to30",
    "y]|to50yU|to30yU|to50@2g|to30@2g|to50t1|to30t1|to50xi|to30xi|to50zg|to30zg|to50@AU|to30@AU|to50$",
    "W|to30$W|to50=2|to30=2|to50(0|to30(0|to50@2W|to30@2W|to50$r|to30$r|to50@3F|to30@3F|to50*H-vQt^|t",
    "o30*H-vQt^|to50etoyC|to30etoyC|to50)S@1x|to30)S@1x|to50*H-vQ@2T|to30*H-vQ@2T|to50*H-vQyU|to30*H-",
    "vQyU|to50)SyU|to30)SyU|to50eto@3F|to30eto@3F|to50:t|to30:t|to50#K**|to30#K**|to50eto**|to30eto**",
    "|to50eto$2|to30eto$2|to50@H5:G|to30@H5:G|to50*H-vQ:4|to30*H-vQ:4|to50eto:4|to30eto:4|to50etot]|t",
    "o30etot]|to50t+-%!t]|to30t+-%!t]|to50eto@Ly|to30eto@Ly|to50eto+p|to30eto+p|to50eto.:|to30eto.:|t",
    "o50eto@J(|to30eto@J(|to50eto+[|to30eto+[|to50e&o+[|to30e&o+[|to50e&o@32|to30e&o@32|to50e&o%v|to3",
    "0e&o%v|to50e&o@Bj|to30e&o@Bj|toB:D|toBy]zg|toBxizg|toB[VK|toB$Wzg|toB@2Wzg|toB+[@AU|to50)S**|to3",
    "0)S**|to50)S.:|to30)S.:|toXyUg|toX@TV@ql|toX@TV@Nh|to50@IK:G|to30@IK:G|toe&oxhwJ|toe&o@6i!6j|toe",
    "&o@^z!6j|toe&o@Bf.s|tovAt0t(|toxhwJ|to[AY.s|tz30yz|tz30@19|tz30+k|tz30@1p|tz30xM|tz30@4b|tz30@0r",
    "|tz30@4C|tz30w*|tz30:E|tz30@2p|tz30#U|tz30?h|tz30wi|tz30@3L|tz30@4v|tz30:p|tz30:u|tz30.9|tz30)+|",
    "tz30@3S|tz30@2V|tz30@21|tz30?]|tz30zU|tz30@1Q|tz30%g|tz30?G|tz30@1U|tz30=e|tz30@4k|tz30@2O|tz30@",
    "28|tz30x#|tz30?5|tz30z.|tz30:0|tz30@2D|tz30=G|tz30.P|xC0uY|xC0[gj|xC0[gk|xC0[gt|xC0[gu|xC0@H^@G+",
    "@Bz|xC0@Bz|xC0[gm|xC0[gp|xC0[gn|xC0[go|xC0[hB|xC0[gr|xC0@B!|xC0+6@B!|xC0[gy|xC0@4m|xC0@H^@G+@4m|",
    "xC0+6@4m|xC0[gw|xC0=D|xC0@Vq|xC0+6@Vq|xC0@Vu|xC0+6@Vu|xC09|xC0@B$|xC0@p4@B$|xC0+6@B$|xC0[gz|xC0@",
    "Vr|xC0@Vs|xC0+6[gv|xC0+6&%|xC0@Vt|xC0xJ|xC0@Vv|xC0[g%|xC0@By|xC0+6@By|xC0@rB@By|xC0[g&|xC0[g)|xC",
    "0[g(|xC0)@|xC0[g*|xC0[gl|xC0[g+|xC0[g:|xC0[g=|xC0@Vx|xC0@Vy|xC0[Xn@Vy|xC0[g]|xC0#o|xC0xX|xCt80[3",
    "kj|xC!wj|xCvi*a|b4[4.|b4[AC|b4[PS|b4[T]|b4[Sz|b4@vU|b4[Y.|b4@!N|b4[E_|b4[Gk|b4z9?u|b4[j3|b4@&)|b",
    "4@%O|b4@_:|b4[YM|b4@yQ|b4[Kp|b4[LP|b4@=N|b4@=R|b4@=Q|b4@=P|b4yt|b4@An|b4@Al|b4[Ur|b4[Uz|b4@Tb|b4",
    "@Am|b4@xE|b4@xX|b4@xV|b4@xF|b4@xH|b4@xG|b4@xW|b4@4x|b4@WL|b4@WI|b4[jR|b4[jV|b4@WH|b4@WK|b4@xI|b4",
    "@xU|b4@xS|b4@xJ|b4@xK|b4@5[|b4@xT|b4[Nl|b4[Nv|b4[Np|b4[Nm|b4[No|b4[Nn|b4[Nq|b4@8B|b4[3N|b4[3K|b4",
    "[3H|b4@2m|b4[3J|b4[3M|b4@Vo|b4[gV|b4[gN|b4[gL|b4[gM|b4@Vp|b4[gO|b4@?r|b4@?z|b4@?x|b4@?s|b4@?v|b4",
    "@?u|b4@?y|Xk0%8|Xk0$x|Xk0$I|Xk0#7|Xk0%5|Xk0#a|Xk0td|Xk0#9|Xk0#B|Xk0xM|Xk0t1|Xk0x_|Xk0%G|Xk0%H|Xk",
    "0xv|Xk0t]|Xk0%(|Xk0!]|Xk0wI|Xk0@AJ|Xk0+h|Xk0%H-xv|Xk0F|Xk0$n|Xk0@6l|Xk0@8u=3|Xk0)@|Xk0xJ|Xk0$)F|",
    "Xk0wZzw|Xk0%9zw|Xk0$)%9zw|Zv+:)*j|Zv+yF:)*j|c:)uG|Z:)uG|cyF:)uG|ZyF:)uG|zL@MS*j|zLyF@MS*j|yF@BM*",
    "j|c@BMuG|Z@BMuG|zLl|czL@QQuG|ZzL@QQuG|@)J@![|@9X|@K*@9X|vc@K*@9X|@]:|yF[I8|u%@HJ|u:@HJ|yFZ-t[v+|",
    "i$p$(|wu?B|:h)I|$(2w7|u(2ukg|ct_@QruG|Zt_@QruG|u(2tAg|u(2tAt9|ctJu02@3h|ZtJu02@3h|xxct(uG|xxZt(u",
    "G|ywct(uG|ywZt(uG|c$8nuG|Z$8nuG|ciy8|Ziy8|t3puRt0tAv1|t0tAuRt3pv1|tytQtAv1|tXtAj|vc!6j|tJu(|uk!g",
    "|#H!wtRtA|ulx0|zLtA|zLx0|ul&v|+T2c@Lg|+T2Z@Lg|ul+T|xxt(y*1|t3-#Byc|tC-#Byc|[VOxhwJ|tJt=p|=BtJvL|",
    "@w:|i$(|vcx0|it_-vc-%6z(j|yc2c@Bb|i@A&j|wut_)j|wut_)j2)jg|t_)j|t_)j2tA|i[V6x0|yF#4|x9+T|@8jx0|[J",
    "vj|[MO@)dj|@!@@Bf.s|xg@Qv2Z@J6|xg@Qv2c@J6|@UJ15&2|@8j!nj|@8j!6j|cluG2tM|ZluG2tM|cluG2itM|ZluG2it",
    "M|xxt(cy8|xxt(Zy8|ywt(cy8|ywt(Zy8|$p$(|tfr)w|tfr@63|tfr&ut0|tfr&ut3|tfr&utC|tfr#V|tfrtw|tfr@A=|t",
    "fr:Jt0|tfr:Jt3|tfr@J%|tfr@AB|tfr3t0|tfr3t3|tfr?Vt0|tfr?Vt3|tfr?VtC|tfr?VtQ|tfr@40|tfr@B5|tfr@Aat",
    "0|tfr@Aat3|tfrzct0|tfrzct3|tfrtB|tfr@9:|tfr@yT|tfr$_|tfr!1|tfr@Jg|tfr@P4|tfr@y$|tfr%)t0|tfr%)t3|",
    "tfr(4|tfr@9ct0|tfr@9ct3|tfrzrt((Y@Ul|tfr=l|tfr.t|tfr@MZ|tfr@5xtS@65|tfr(v|tfr@41t0|tfr@41t3|tfr@",
    "5m|tfr@AT|tfrtb-zr@AT|tfr:Zt0|tfr:Zt3|tfr:ZtC|tfr:ZtQ|tfr@O&|tfr@AK|tfr@3m|tfr@Km|tfre|tfr.ft0|t",
    "fr.ft3|tfr@2(|tfr@P3|tfr@24t0|tfr@24t3|tfr@24tC|tfr@4G|tfr@66|tfru7t0|tfru7t3|tfrtb-zr*(|tfrzrzJ",
    "|tfrzJ|tfrtb-zr.0|tfrtb-zrzh|tfr@1=|tfrtb-zr@Il|tfrzr@0h|tfr@0ht0|tfr@0ht3|tfr@I:|tfrtb-zr@23|tf",
    "rugt0|tfrugt3|tfrtb-zrug|tfrtb-zr@L9|tfr@8yt0|tfr@8yt3|tfr+:|tfr*9|tfrtb-zr@T:@8I|tfrtb-zr#R|tfr",
    "tb-zr(d|tfrtb-zr@72|tfr.xt0|tfr.xt3|tfr.xtC|tfrtb-zr.x|tfrz@|tfrtb-zr)g|tfr@1F|tfr@7L|tfrtb-zr(w",
    "|tfrtb-zr@1E|tfrtb-zr(P|tfrzr@Bo|tfrzr@0l|tfrtb-zr@79|tfrvt-zr.)|tfrtb-zr.)|tfrvt-zr@4K|tfrtb-zr",
    "@4K|tfrvt-zr*L|tfrtb-zr*L|tfr@0a|tfrvt-zr@0a|tfrtb-zr@0a|tYrt0|tYrvL|tYrtA|tYr$]|tYr&u|tYrtW|tYr",
    "t3|tYr@No|tYr#U|tYr[4B|tYr@Ka|tYrt?|tYrt$tw|tYr@6I|tYr*W|tYr@A=|tYrujtw|tYr:J|tYr:n|tYr[fa|tYr@A",
    "i|tYrZujtw|tYr@@?@6y|tYrvv|tYr@J%|tYr@AB|tYr@63|tYr[L@|tYr@o]|tYrxn|tYr@6y|tYr$%|tYr[Rt|tYr%p|tY",
    "r%p[T*|tYr@*1|tYr%9|tYr+D|tYr@5_|tYr[Pb|tYr@^r|tYr3|tYr?V|tYr@!^|tYr[Uj|tYr*l|tYr[PO|tYr@Bt|tYr[",
    "IX|tYr@U%|tYr@6r|tYrv:@B5|tYryF@63|tYrug[Vj|tYrt3)e|tYr[S%|tYr.c|tYr@Aa|tYr@vx|tYr@Aq|tYrzc|tYr@",
    "@3|tYr@J:|tYrtB|tYr)I|tYr@9:|tYruh|tYr@&c|tYr@5i|tYrl|tYrwx|tYr$_|tYr@SX|tYr!1|tYr(Y|tYr[3n|tYrw",
    "J|tYr@Jg|tYr[e[|tYr#Mwx|tYr@!g|tYr@K[|tYr#s|tYr@Tg|tYr%)|tYr(4|tYr)P|tYr@Kr|tYrivj|tYrt((Y@Ul|tY",
    "r@T7|tYr@+M|tYr=l|tYr.t|tYr[L^|tYr@MZ|tYr@O#|tYru6|tYr@T!|tYr[4d|tYr[b[|tYr@Ku|tYr@5xtS@65|tYr[T",
    "R|tYryF@A^|tYrtE|tYr[Tp|tYr#8|tYr(v|tYr@TQ|tYrQ|tYr@At|tYr@41|tYr@UY|tYr@?I|tYr@xC|tYr[VB|tYr@5m",
    "|tYr:r|tYr@AT|tYr@Ma|tYr:Z|tYr@AK|tYr@1)|tYre|tYrP|tYr[LH|tYr+b|tYr.f|tYr@2(|tYr[A1|tYr@Se|tYr@q",
    "W|tYr@P3|tYr$v|tYr[Ii|tYr@II|tYr[VV|tYr@!Y|tYr@24|tYr@4G|tYr@^.|tYr@IE|tYr@0h@6y|tYr@66|tYru7|tY",
    "r*(|tYrzJ|tYr.0|tYr[dF|tYr@ul|tYr@3U|tYr@Hz|tYrzh|tYr$6|tYr[P]|tYr@1=|tYr@IJ|tYr@Il|tYr@vM|tYr[A",
    "X|tYr@0h|tYr@I:|tYr@4h|tYr@&l|tYr[dw|tYr@23|tYrug|tYr@L9|tYr@8y|tYr[Tu|tYrv:$V@1E|tYr+:|tYr*9|tY",
    "r[fe|tYrtv|tYr@8I|tYr@T:@8I|tYr[49|tYr$t|tYr#R|tYr(d|tYr@72|tYr.x|tYrz@|tYr@.K|tYr)g|tYr@1F|tYr:",
    ":|tYr+o|tYr@+p|tYr[R1@4h|tYr@In|tYr@7L|tYr(w|tYr@1E|tYr(P|tYr@6c|tYr@Bo|tYr@@l|tYr@0l|tYr[9[|tYr",
    "t7|tYr@)j|tYr@79|tYr[Za|tYr.u|tYr@3n|tYr(H|tYr.)|tYr@4K|tYr*L|tYr@0a|tYr@K#|ui&YvOctGZ|ui&YvOgtG",
    "t9|ui&YvOctGtRPZ|ui&YvOgtGtRPt9|ui&YvOxh.4|ui&YvO.4z3g|ui&YvO.4z3t9|ui&YvO.4z3c|ui&YvO.4z3t@c|ui",
    "&YvO.4z3t@Z|ui&YvO.4z3t)c|ui&YvO@9S|ui#Y|uix0|uixhwJ|@&oj|*Y@^!@TeB|ui)ij|ui=jj|uiVvV|cv+uG|Zv+u",
    "G|civ+uG|Ziv+uG|cy=uG|Zy=uG|ctEy=uG|ZtEy=uG|ct7*cuG|Zt7*cuG|@3Yj|@:]j|c!$zhuG|Z!$zhuG|ctE*cuG|Zt",
    "E*cuG|ctE!$zhuG|ZtE!$zhuG|ctEluG|ZtEluG|zWyc|vci&sz(j|i&sz(j|t_i&sz(j|@3Yjtv|&ew4t0|&ew4t3|&ew4t",
    "C|&ew4tQ|&ew4tX|&ew4t=|&ew4uB|&ew4t?|&ew4uF|ui+vtij|ui%Stij|ui@6ftij|ui@)wtij|UvmtAtij|UitAtij|(",
    "byc|tJ?L)wj|tJ?L)w2&N$tj|tJ?L)wjt@t(|tJ?L)w2&N$tjt@t(|tJ?L)wjt)t(|o@3Yj|uiwjvL@6?!wB|&ew4vv|&ew4",
    "ws|&ew4x)|tJui)ij|[8Zj|@9a@pbj|uitIzR|uit($E#Y|u^03F|u^0F|u^03t6|u^0t6|u^03n|u^0n|u^03f|u^0f|u^0",
    "3t1|u^0t1|u^0td|u^0v0|u^0zS|u^0#0|u^0z]|u^0$j|u^0!O|u^0(!|u^0z#|u^0%p|u^0up|u^0xy|u^0!9|u^0(g|u^",
    "0z)|u^0&+|u^0!h|u^0#a|u^0zV|u^0&*|u^0uq|u^0u=|u^0!#|u^0$0|u^03z+|u^0z+|u^0$1|u^0xv|u^0#7|u^0tG|u",
    "^0#M|u^0ue|u^0yU|u^0zC|u^0yT|u^0xo|u^0t]|u^0vS|u^0tr|u^0yG|u^0#]|u^0xi|u^0$m|u^0!l|u^0&J|u^0x#|u",
    "^0%8|u^0x_|u^0zA|u^0&U|u^0$P|u^0ub|u^0y]|u^0x]|u^0y[|u^0z$|u^03uY|u^0uY|u^03xJ|u^0xJ|u^03xX|u^0x",
    "X|u^0uS|u^0#D|u^0!7|u^0#X|u^0zg|u^03v#|u^0v#|u^0!j|u^0z.|u^0zj|u^0u5|u^0.I|u^03td|u^03!O|XtO-u^&",
    "N$tj|XtO-u^@AE-&N$tj|tO-u^&N$tj|tO-u^@AE-&N$tj|u^)ij|u^&N)ij|u^zl[hQ|tO-u^i$(|tO03F|tO0F|tO03t6|",
    "tO0t6|tO03n|tO0n|tO03f|tO0f|tO03t1|tO0t1|tO0td|tO0v0|tO0zS|tO0#0|tO0z]|tO0$j|tO0!O|tO0(!|tO0z#|t",
    "O0%p|tO0up|tO0xy|tO0!9|tO0(g|tO0z)|tO0&+|tO0!h|tO0#a|tO0zV|tO0&*|tO0uq|tO0u=|tO0!#|tO0$0|tO03z+|",
    "tO0z+|tO0$1|tO0xv|tO0#7|tO0tG|tO0#M|tO0ue|tO0yU|tO0zC|tO0yT|tO0xo|tO0t]|tO0vS|tO0tr|tO0yG|tO0#]|",
    "tO0xi|tO0$m|tO0!l|tO0&J|tO0x#|tO0%8|tO0x_|tO0zA|tO0&U|tO0$P|tO0ub|tO0y]|tO0x]|tO0y[|tO0z$|tO03uY",
    "|tO0uY|tO03xJ|tO0xJ|tO03xX|tO0xX|tO0uS|tO0#D|tO0!7|tO0#X|tO0zg|tO03v#|tO0v#|tO0!j|tO0z.|tO0zj|tO",
    "0u5|tO0.I|tO03td|tO03!O|tO0xU|tO0):|tO0$x|tO0)A|tOtRtA|tO-u^@RP$tj|tO)ij|tO&N)ij|tOzl@N6|wB0t4|w",
    "B0vQ|wB0uz|wB0uV|wB0tV|wB0u]|wB0u5|wB0t+|wB0u[|wB0v3|wB0vB|wB0vt|wB0x6|wB0vj|wB0[id|wB0@Ix|wB0+?",
    "|wB0tu|wB0vR|wB0tb|wB0tt|wB0F|wB0t1|wB0f|wB0(t|wB0v*|wB0)U|wB0wA|wB0*v|wB0yz|wB0xM|wB0%:|wB0&b|w",
    "B0%G|wB0t6|wB0n|wB0?E|wB0v5|wB0#$|wB0@=[|wB0@7n|wB0t12tAg|wB0?q|U0y6|U0.2|U0y6-w3|U0y%|U0y%-!M|U",
    "0y%-y?|U0yW|U0:&|U0w5|U0w5-y6|U0w5-ye|U0w5-wV|U0w5-w3|U0w5-#(|U0w5-#W|U0w5-y?|U0ye|U0wV|U0:%|U0w",
    "V-w3|U0w3|U0(U|U0!s|U0!M|U0@0I|U0#^|U0$+|U0#(|U0#W|U0y?|U0F|U0z0|U0uY|U0)?|U0%k|U0f|U0&&|U0#o|U0",
    "t1|U0v#|U0@Bi|U0yM|U0xX|U0n|U0@Bn|U0z.|U0!j|U0xJ|U0#w|U09|U0t6|U(3|U0@45|U0y%-yW|U0y%-w3|U0y%-%Q",
    "|U0w5-y6-w3|U0w5-yW|U0w5-wV-w3|U0w5-%Q|U0w5-=F|U0ye-wV|U0ye-w3|U0ye-%Q|U0@7.|U0wV-y6|U0wV-yW|U0w",
    "V-w3-y6|U0wV-w3-yW|U0wV-!M|U0wV-#(|U0+s|U0@Mu|U0w3-y6|U0w3-y%|U0w3-yW|U0w3-wV|U0w3-!M|U0%Q|U0@Aj",
    "|U0)C|U0)C-w3|U0)C-%Q|U0@7:|U0@Ta|U0=F|U0xX-uY|U0xX-)?|U0xX-t6|U0xJ-&&|U0xJ-#o|U0xJ-t6|U0*4|U0@q",
    "G|ui#=[4uj|ui#=#ij|ui#=t0j|ui#=t3j|ui#=tCj|ui#=tQj|ui#=xxj|ui#=tRj|ui#=ywj|ui#=)aj|ui#=&uj|ui#=%",
    "%j|ui#=+jj|ui#=@2Aj|ui#=$%j|ui#=#Uj|wB0!l|wB0(g|wB0*Z|wB0$j|wB0yX|wB0@6z|wB0x.|wB0@QS|wB0?C|wB0@",
    "p+|wB0@^)|wB0@V2|wB0%I|wB0[D9|wB0@pD|wB0@q?|wB0(i|wB0&B|wB0@QR|wB0@^*|wBt20vQ|wBt20u]|wBt20v3|wB",
    "t20vB|wB0@=S|wB0@8M|wB0@WG|wBt20u[|wB0@?n|wB0@88|wB0yM|wB0&R|tftMu]|tftM[f6|tftM[f=|tftM@wF|tftM",
    "@Tx|tftM@]^|tftM@]?|tftM@2F|tftM@]]|tftM[Wk|tftM@]@|tftM@]_|tftM@]O|tftM@][|tftM@^0|tftMu5|tftMv",
    "B|tftMtt|tftMvQ|tftM[UG|tftMtV|tftM@MC|tftM@L$|tftM[Wb|tftM[WI|tftM@Ao|tftM[SL|tftM[K4|tftM[Mq|t",
    "ftM[Y+|tftM[Wl|tftM[WB|tftM@]*|tftM@^1|tftM[Kf|tftMx6|tO03z]|tO03!9|tO03z)|tO03tG|tO03zC|tO03t]|",
    "tO03yG|tO03$m|tO03x#|tO03zA|tO03x]|tO03uS|tO03#D|tO03!7|tO03#X|tO03zg|uHUy6|uHUy%|uHUyW|uHUw5|uH",
    "Uye|uHUwV|uHUw3|uHU!s|uHU!M|uHU#^|uHU$+|uHU#(|uHU#W|uHUy?|uHUy6F|uHUy%F|uHUyWF|uHUw5F|uHUyeF|uHU",
    "wVF|uHUw3F|uHU!sF|uHU!MF|uHU#^F|uHU$+F|uHU#(F|uHU#WF|uHUy?F|uHU!Mn|uH?RvO[IT|uH?RvOt1$m|uHuDt0|u",
    "HuDt3|uHuDtC|uHuDtQ|uHuDtX|uHuDt=|uHuDuB|uHuDt?|uHuDuF|uHuDvv|uHuD!1|uHuD(4|uHuD%)|uHuD@Bs|uHuD@",
    "O)|uHuD$%|uHuD$_|uHuD@As|uHuD@Lw|uHuD@TF|uHuD*o|uHuD@TR|uHuD@Kw|uHuD@I]|uHuD@NM|uHuD[O+|uHuD@5=|",
    "uHuD@Tl|uHuD@Tv|uHuD@Kb|uHuD@R:|uHuD@HF|uHuD@+h|uHuD$S|uHuD@Se|uHuD@Rx|ouD!6|ouD[1&|ouD@AA|ouD@N",
    "6|oVvvwit7l|oVwswit7l|oVx)wit7l|oVz!wit7l|oVz8wit7l|oV#jwit7l|oVzNwit7l|oV%Dwit7l|@Qs1|oVwst0|oV",
    "wst3|oVwstC|oVwstQ|oVwstX|oVwst=|oVwsuB|oVwst?|oVwsuF|oVx)|oVx)t0|oVx)t3|oVx)tC|oVx)tQ|oVx)tX|oU",
    "y6|oUy%|oUyW|oUw5|oUye|oUwV|oUw3|oU!s|oU!M|oU#^|oU$+|oU#(|oU#W|oUy?|oUy6F|oUy%F|oUyWF|oUw5F|oUye",
    "F|oUwVF|oUw3F|oU!sF|oU!MF|oU#^F|oU$+F|oU#(F|oU#WF|oUy?F|o?RvO@x!|o?RvO[03|oU!sn|?R@TeB|ouDt0|ouD",
    "t3|ouDtC|ouDtQ|ouDtX|ouDt=|ouDuB|ouDt?|ouDuF|ouDvv|ouD!1|ouD(4|ouD%)|ouD@Bs|ouD@O)|ouD$%|ouD$_|o",
    "uD@As|ouD@Lw|ouD@TF|ouD*o|ouD@TR|ouD@Kw|ouD@I]|ouD@NM|ouD[R*|ouD(+|ouD.+|ouD[V&|ouD@*4|ouD@RN|ou",
    "D@q*|ouD@_D|ouD$S|ouD@!.|ouD@!_|ouDuA|ouDwv|ouDt_|ouDc|ouDZ|ouD[8&|ouD[O!|ouD@Tl|ouD@Tv|ouD@Kb|o",
    "uD@R:|ouD@HF|ouD?o|oVx)t=|oVx)uB|oVx)t?|oVx)uF|oVz!|oVz!t0|oVz!t3|oVz!tC|oVz!tQ|oVz!tX|oVz!t=|oV",
    "z!uB|oVz!t?|oVz!uF|oVz8|uiwjBh@_Q|uiwjBh@+X|uiwjBh[8K|uiwjBh@qC|uiwjBh@Or|uiwjBh[06|uiwjBh[05|ui",
    "wjBh@q=|uiwjBh[S5|uiwjBh[IL|uiwjBh[FA|uiwjBh@%e|l@L$|l@))|l@6&|[4p[4V1|otOF|otOt6|otOn|otOf|otOt",
    "1|otOtd|otOzS|otOz]|otO!O|otOz#|otOup|otO!9|otOz)|otO!h|otOzV|otOuq|otO!#|otOz+|otOxv|otOtG|otOu",
    "e|otOyU|otOzC|otOyT|otOxo|otOt]|otOyG|otO$m|otOx#|otOzA|otOub|otOy]|otOx]|otOy[|otOz$|otOuY|otOx",
    "J|otOxX|otOuS|otO#D|otO!7|otO#X|otOzg|otOv#|otO!j|otOz.|otOzj|l=#*o[Ow|l@q2|l@qd|l@p=|l@nZ|l@^&|",
    "l@^[|l[b!|l@)[|l@)M|l[Ia|l[Id|l[0m|l[0#|l[0&|l@:i|l@:d|l@=y|l@=z|l[3O|l@=&|l[1*|l[1+|l[1.|l[1:|l",
    "@?f|l@?g|l[2:|l[2*|l[17|l[2W|l[2R|l[R4|l[RX|l[Th|l[S1|l[S2|l@$x|l@%(|l@&_|l[Y_|l[B:|l[F9|l@@2|l[",
    "J6|l[J7|l@tu|l[Kz|l[K+|l[K*|l@vE|l@]S|l@]U|l@w7|l@]c|l@@g|l@Q.|l[KK|l@@r|l[KN|l[KF|l@us|l[LV|l@v",
    "Z|l@7g|l[Lc|l@]F|l@]D|l[7?|l[7^|l[7:|l[8R|l[8D|l[9.|l[A5|l[A6|l@8m|l[8.|l[8)|l[gg|l[gi|l[hb|l[PM",
    "|l[PL|l[Q4|l[Q9|l[O%|l[O&|l[e?|uiwjBh!rvV|uiwjBh!rt0|uiwjBh!rt3|uiwjBh!rtC|uiwjBh!rtQ|uiwjBh!rtX",
    "|uiwjBh!rt=|uiwjBh!ruB|uiwjBh!rt?|uiwjBh!ruF|uiwjBh!rvv|uiwjBh!r&1|uiwjBh!r%2|uiwjBh!r+1|uiwjBh!",
    "r*S|uiwjBh!r(1|uiwjBh!r)3|uiwjBh!r*)|uiwjBh!r)V|uiwjBh!r*p|uiwjBh!rws|uiwjBh!rws-t0|uiwjBh!rws-t",
    "3|uiwjBh!rws-tC|uiwjBh!rws-tQ|l@]N|lu=|lwA|lu0|l@Qb|l[K3|l@6n|l@6nty|l@6n=n|l?E|l=#*o@@f|l=#*o[W",
    "S|l=#*o[XO|l=#*o[8:|l@!]|ltr@pm|lue|lx]F|lub|ltd|l[11|l@8d|l@:n|l@wx|l[12|l[Ke|l[C@|lx]uV|lx]u[|",
    "l[9P|l@M(|l@MC|l[1q|l[9y|l@=p|l[Yc|lx]t+|l[AA|l@&x|l[25|l@+^|l[E&|lx]uz|l@2:|l@67|l@2c|l@2:ty|l@",
    "67ty|luzty|l@2cty|l@2:=n|l@67=n|luz=n|l@2c=n|luzuRtt|luzuRttty|ltr|l?S|l@P7|l@?E|l@3j|l@3juRtt|l",
    "@3juRttty|l[MA|l[Fh|lx]tt|l[As|l[Mi|l@9E|lx]v5|l?e|l[2_|l?e@8m|l[Mj|l[GV|lx]v(|l@PC|l@88|l@PC@8m",
    "|lv3@3C|luz@3C|l(i|l@vj|l@Iq|l@Ir|ltbuR@M(|l&X|l@JW|l@?q|lt]|l@2F|lw*|l@2a|l@2c5|l[2p|l[4*|l[4+|",
    "l[4@|l[5U|l@8d3|l[9:|l[AM|l[Kg|l[LO|l[Lx|l[Lz|l[Uq|l@A(|l[e@|lv5uRuz|lFuRuz|uiwjBhzQt0|uiwjBhzQt",
    "3|uiwjBhzQtC|uiwjBhzQtQ|uiwjBhzQtX|uiwjBhzQt=|uiwjBhzQuB|uiwjBhzQt?|uiwjBhzQuF|uiwjBhzQvv|uiwjBh",
    "zQ&1|uiwjBhzQ%2|uiwjBhzQ+1|uiwjBhzQ*S|uiwjBhzQ(1|uiwjBhzQ)3|uiwjBhzQ*)|uiwjBhzQ)V|uiwjBhzQ*p|uiw",
    "jBhzQws|uiwjBhzQws-t0|uiwjBhzQws-t3|uiwjBhzQws-tC|uiwjBhzQws-tQ|uiwjBhzQws-tX|uiwjBhzQws-t=|uiwj",
    "BhzQws-uB|uiwjBhzQws-t?|uiwjBhzQws-uF|uiwjBhzQx)|uiwjBhzQx)-t0|l)c|w)hyO@#B@2A|w)hyO[On$%|w)h@&P",
    "!UyO@uv|w)h[hS@.2|w)h@VQ|w)h@!o|w)hyO@qS|w)h:2@4J|w)h3@T+|w)h[ZM|w)h@9d|w)h[VD|w)h@+c|w)h.]@RH|w",
    ")h[AI|w)h@)x|w)h@K%|w)h@BtwiyO@%d|w)h@qA|w)h@!w|w)h@I8%X|w)h@7Q|w)h[UZ@q3|w)h@04|w)h@^+|w)h.]@T+",
    "|w)hxn.l|w)h.]@RM|w)hyO@ok%)|w)hyO@y[(4|w)h@^#|w)h@(O|w)h[O_|w)h.]:n|w)h[L_|w)h@JTtSyOu2|w)hyO@K",
    "p|w)h@9P|w)h[IG|w)h@%t|w)h@Ji|w)h@7o|w)h@vr|w)h@!etG@O!|w)h@7B@4J|w)h[Mb@V4|w)h[Ij|w)hyO[f0|w)h[",
    "P3|w)hyO@In|w)hyO@qU@B7|w)hyO@My[VR*l|w)h@%.|w)hyO[8P[7=|w)h@oj|w)hyO[e$|w)hyO@::(d|w)hyO@_^@NO|",
    "w)h@&i|w)h[4o|w)h@MP[Zn|w)h3@RM|w)h@o[@69|w)h@ut@69|94@7z|94@MW|94t6|94@_3|94@^T|94@^U|94$n|94@^",
    "S|94!U|94@Hm|94F|94@HP|94[b$|94@V3|94[b#|94@3G|94@3I|94t1|94@9O|94@1&|94f|94(e|94@I7|94@vN|94#]|",
    "94@vC|94@v4|94@v5|94@v2|94@v3|94@5o|94@uF|94vS|94@u1|94@w0|94@v^|94@v_|94@vc|94tw|94&U|94@vY|94@",
    "u&|94%8|94@u$|94(m|94@wD|94!l|94@w2|94@w5|94)K|94@wJ|94@wK|94&V|94@wG|94@wI|94@wH|94@R6|94[L5|94",
    "xi|94@R2|94[K)|94@Q_|94[K&|94[J=|94[K0|94tr|94$O|94[MT|94[MR|94[MS|94@3Z|94[Lu|94$P|94@9s|94@9!|",
    "94[Mg|94&J|94@RW|94[Ma|94[MV|94@Ra|94[Mp|94[Ml|94[Mm|94[Mo|94[Mn|94@uT|94@uU|94@H)|94@uS|94@uQ|9",
    "4@uR|94@uO|94@uP|94@uJ|94@uK|94+Q|94@uI|94@ua|94@uY|94@uZ|94@uW|94@uX|94@H*|94@uV|94@uN|94=X|94@",
    "uM|94@H.|94@ue|94@H+|94@ub|94@ud|94@uc|94@uh|94@ui|94@uf|94@ug|94[CC|94[CD|94[C8|94[CB|94[CA|94@",
    "PT|94[C9|94[C6|94[C7|94[C4|94[C5|94[CG|94[CH|94[CE|94[CF|94[CM|94[CN|94[CI|94[CJ|94[CL|94[CK|94[",
    "CS|94[CT|94[CO|94[CP|94[CR|94[CQ|94@[j|94@[k|94@[e|94@[i|94@[h|94@[f|94@[g|94@[b|94@[c|94@[Z|94@",
    "[a|94@[r|94@[p|94@[q|94@[m|94@[n|94@L?|94@[l|94@[v|94@[w|94@[o|94@[s|94@[u|94@[t|94@[#|94@[x|94@",
    "[y|94@[!|94@[z|94@8r|94[A8|94y]|94[A3|94[9&|94[9$|94[9%|94[8a|94[8g|94ub|94?X|94[A:|94[A=|94[A*|",
    "94[A.|94[Ac|94[Al|94z$|94@P2|94[9G|94y[|94[B2|94[B6|94x]|94[A?|94[A_|94[A[|94[BB|94[BC|94@PH|94[",
    "BA|94@+$|94@+%|94(0|94@+u|94@+R|94@6=|94yd|94@+N|94@K:|94(5|94@.9|94@.a|94@.b|94)b|94@.X|94@.Y|9",
    "4@K[|94@.g|94@.h|94@.d|94@.f|94[d%|94[d&|94):|94[dy|94wQ|94[du|94[dp|94[dq|94[dP|94[dS|94xU|94[d",
    "H|94[e0|94[e2|94)A|94[d_|94[dj|94@VC|94[e9|94[eA|94.I|94[e7|94[e8|94@VP|94[eI|94[eJ|94@Bh|94[eF|",
    "94[eH|94[eG|94@&n|94@&u|94$0|94@&a|94@&L|94*I|94@&J|94@JU|94@%6|94u=|94%]|94@(J|94@(I|94tA|94@(3",
    "|94#M|94@&]|94@%:|94#7|94@%!|94@(S|94@(U|94$1|94@(K|94@(P|94@(M|94@UK|94[Y#|94!#|94#m|94[Yi|94:@",
    "|94[Yh|94@T@|94[Xo|94uq|94[Xb|94@U#|94[aI|94[aG|94[aH|94@UU|94[ZB|94tG|94xx|94[Y0|94xv|94[X)|94[",
    "aP|94[aT|94z+|94@U$|94[aO|94=1|94@%M|94@%N|94@Jd|94@%L|94@%K|94@%I|94@%J|94@%9|94@%A|94xs|94@%8|",
    "94@%U|94@%S|94@%T|94@%Q|94@%R|94@6a|94@%P|94@%D|94@Ja|94@%C|94@%X|94@%Y|94@Je|94@%V|94@%W|94@Jf|",
    "94[Cl|94[Cm|94@8=|94[Cj|94[Ci|94[Ch|94[CY|94[CZ|94:Y|94@8.|94[Cq|94[Cr|94@8?|94[Cp|94[Ce|94@2_|9",
    "4[Ca|94[Cw|94[Cx|94@30|94[Ct|94[Cv|94[Cu|94@[]|94@[^|94@[.|94@[[|94@[?|94@[@|94@[:|94@[=|94@[%|9",
    "4@[(|94@7e|94@[$|94@]4|94@]3|94@]0|94@]1|94@[_|94@[+|94@[)|94@[*|94@]5|94[E5|94[E7|94yU|94[E1|94",
    "[D*|94[D(|94[D)|94[C0|94ue|94[B@|94[GO|94[GM|94[GN|94wx|94[FD|94xo|94[F5|94[C=|94yT|94[C(|94@Q0|",
    "94[GU|94zC|94[GP|94[GR|94[GQ|94@[E|94@[F|94@7d|94@[D|94@[C|94@[A|94@[B|94@[4|94@[6|94@L=|94@[3|9",
    "4@[M|94@[K|94@[L|94@[I|94@[G|94@[H|94@[9|94@[7|94@[8|94@[Q|94@[R|94@[J|94@[N|94@[P|94@[O|94@[W|9",
    "4@[X|94@[S|94@[T|94@[V|94@[U|94[4y|94[4#|94w!|94@2u|94[4b|94[4c|94@Np|94[4a|94[3.|94[3^|94uw|94@",
    "8E|94[5M|94[5N|94[5K|94[5L|94[58|94[5D|94#!|94[53|94[4M|94x%|94[4H|94[5S|94[5T|94!u|94[5O|94[5Q|",
    "94[5P|94[5b|94[5c|94@8V|94[5Z|94[5a|94@N@|94@=)|94@=*|94#0|94@=!|94@=u|94@=v|94@=s|94@=t|94@:k|9",
    "4@:m|94v0|94.=|94@?c|94@?d|94@?a|94@?b|94@La|94@?D|94%p|94@?7|94@:[|94@:^|94(!|94@LJ|94@?k|94@?l",
    "|94$j|94@?e|94@?j|94@27|94@M^|94[1_|94zS|94@M]|94[1y|94[1v|94[1x|94[0)|94[10|94td|94@Ms|94[2%|94",
    "[2!|94@87|94[2X|94[2b|94z#|94[2T|94+u|94[1V|94!O|94[1F|94@2i|94[2]|94z]|94[2&|94[2=|94$4|94@=B|9",
    "4@=C|94@LM|94@=A|94@=8|94@=9|94@=2|94@=3|94.?|94@=1|94@=G|94@=H|94@LQ|94@=F|94@=D|94@=E|94@LN|94",
    "@LO|94@=6|94@=7|94@7J|94@=5|94@=L|94@=M|94@LP|94@=I|94@=K|94@=J|94[9k|94[9j|94[9S|94[9T|94[9Q|94",
    "[9R|94[9r|94[9p|94[9q|94[9m|94[9n|94%N|94[9l|94[9i|94[9g|94[9h|94[9v|94[9w|94[9o|94[9s|94[9u|94[",
    "9t|94@M7|94@]!|94@]u|94@]z|94@]x|94@]y|94@]v|94@]w|94@]p|94@]q|94@]n|94@]o|94@](|94@])|94@M9|94@",
    "]&|94@]$|94@]%|94@]#|94@M8|94@]t|94@]r|94@]s|94[DU|94[DS|94[DT|94[D3|94[D4|94w9|94[D1|94[Dv|94[D",
    "w|94[Du|94[Dm|94[Dn|94+%|94@Pq|94[D8|94@Pe|94[D6|94@L.|94@@@|94?5|94+p|94@@Q|94t]|94@@G|94@]a|94",
    "@]b|94@]Y|94@]Z|94?7|94@]L|94zA|94@]H|94@@s|94x#|94@@m|94[e:|94@VV|94v#|94@VS|94[fm|94@Vk|94[fl|",
    "94[fZ|94zj|94[fR|94[f5|94z.|94[f2|94[j0|94[j1|94(g|94[i]|94[i=|94[i.|94[i:|94[iT|94[iV|94xy|94[i",
    "P|94[jE|94[jC|94[jD|94@WD|94[j6|94&*|94[j5|94[ic|94#a|94[iZ|94[jG|94[jH|94&+|94@WE|94[jF|94@WF|9",
    "4[jP|94[jQ|94@WG|94[jM|94[jO|94[jN|94@y!|94@y%|94@1T|94@I*|94@yt|94@yu|94@yr|94@ys|94%@|94@xD|94",
    "wM|94@1M|94@#N|94@#M|94@JB|94@#1|94@#7|94&X|94@!+|94@xt|94)L|94@xo|94@6Q|94@#Y|94@6N|94#t|94@#U|",
    "94@#Q|94@JJ|94@#i|94@JG|94@JI|94@#h|94@#f|94[jc|94[jd|94@WI|94[jb|94@WJ|94[ja|94[jY|94[jZ|94[jT|",
    "94[jU|94@4x|94[jS|94[jf|94@WK|94[je|94[jX|94@WH|94[jW|94[jl|94@WL|94[ji|94[jk|94[jj|94[jr|94[js|",
    "94[jm|94[jo|94[jq|94[jp|94[G:|94[G=|94[G(|94[G.|94[G+|94[G)|94[G*|94[G!|94[G#|94@9J|94[Gy|94[G_|",
    "94[G^|94[G@|94[G?|94[G&|94[G$|94[H3|94[G[|94@QF|94[H2|94[H1|94[H8|94[H9|94[H4|94[H5|94[H7|94[H6|",
    "94[Tk|94t=|94!9|94[Tg|94[TW|94[TT|94[TV|94@A6|94[Rl|94up|94@SU|94[V=|94[V.|94[V:|94@Ae|94[UE|94z",
    "V|94[U7|94[SH|94!h|94[S3|94[W5|94[W7|94z)|94[V?|94[W2|94@48|94[WZ|94[Wa|94[WJ|94[WT|94[WY|94[WU|",
    "94[U+|94[U.|94@Al|94[U*|94[U)|94[U&|94[U(|94[Ux|94[Uy|94yt|94[Uw|94[U=|94[U?|94@Am|94[U:|94[U#|9",
    "4@Tb|94[U!|94[U[|94[U]|94@An|94[U@|94[V2|94[V3|94[U^|94[U_|94[V1|94[V0|94[ih|94[ii|94#b|94[ig|94",
    "[iv|94[it|94[iu|94[ir|94[is|94@B@|94[iq|94[il|94[im|94%5|94[ik|94[iz|94[i!|94@B[|94[iw|94[iy|94[",
    "ix|94[i)|94[i*|94[i$|94[i%|94[i(|94[i&|94@I!|94@x.|94wt|94@x&|94@yd|94@ye|94@yb|94@yc|94@yW|94@y",
    "X|94&?|94@yU|94@y7|94@y8|94!]|94@y1|94@yi|94@1S|94@yf|94@yh|94@yg|94@yp|94@yq|94@yl|94@ym|94@yo|",
    "94@yn|94[Pk|94#&|94[Pu|94[Pt|94[Pp|94[Pq|94@SE|94[Po|94[Pm|94[Pn|94@SD|94[Pl|94[Py|94[Pz|94[Ps|9",
    "4[Pv|94[Px|94[Pw|94[P&|94[P(|94[P!|94[P#|94[P%|94[P$|94[FK|94[FL|94@99|94[FJ|94[FT|94[FR|94[FS|9",
    "4[FP|94[FQ|94[FM|94[FN|94[FZ|94[Fa|94[FU|94[FW|94[FY|94[FX|94[Ff|94[Fg|94[Fb|94[Fc|94[Fe|94[Fd|9",
    "4@Sq|94[Sd|94wI|94[SX|94[TA|94[T8|94[T9|94[S*|94[S=|94(R|94@Sy|94@Ss|94[Ss|94y1|94[Sj|94[TD|94[T",
    "F|94%W|94[TB|94[TC|94@S&|94[TN|94[TO|94@S:|94[TK|94[TM|94[TL|94@3n|94[Oh|94uS|94@9:|94[Q2|94[Q0|",
    "94[Q1|94[Ph|94[Pj|94zg|94[Pe|94@R[|94#X|94[O(|94[Q8|94[QA|94!7|94[Q3|94[Q6|94[Q5|94[QM|94[QN|94@",
    "SK|94[QJ|94[QL|94[QK|94@_n|94@_o|94*Z|94@_m|94@_j|94@_k|94@_h|94@_i|94[0A|94[0B|94[08|94[09|94*b",
    "|94@_]|94(8|94@_@|94[0G|94[0I|94+r|94[0C|94[0F|94[0E|94[0O|94[0P|94[0K|94[0L|94[0N|94[0M|94[ND|9",
    "4[NE|94?^|94[NC|94[N9|94[NA|94[N7|94[N8|94[NZ|94[Na|94@9*|94[NY|94@Rf|94[NJ|94@3g|94[NH|94[Nf|94",
    "[Nh|94?_|94[Nb|94[Nd|94[Nc|94[Nu|94[Nw|94[Nk|94[Nr|94[Nt|94[Ns|94@_v|94@_w|94@Me|94@_u|94@_s|94@",
    "_t|94@Mf|94@_r|94@_$|94@_!|94@_#|94@_y|94@_z|94@Mg|94@_x|94@Mi|94@_)|94@Mh|94@_%|94@_(|94@_&|94@",
    "_+|94@_.|94@Mj|94@_*|94[EL|94[EM|94:b|94[EK|94[EI|94[EJ|94[EF|94[EH|94[ER|94[EQ|94[EO|94[EP|94@P",
    "z|94[EN|94[EW|94@97|94[ES|94[EV|94[EU|94[Eb|94[Ec|94[EX|94[EY|94[Ea|94[EZ|94@QD|94[Gi|94%v|94@QC",
    "|94[Gf|94[Gg|94[Gd|94[Ge|94[Gt|94[Gr|94[Gs|94[Gn|94[Go|94)p|94@QE|94[Gv|94[Gw|94@9I|94[Gu|94[g2|",
    "94[g3|94%b|94[g0|94[f^|94[f_|94[f[|94[f]|94[gD|94[gC|94[g8|94[g9|94@Vm|94[g5|94[gU|94[gW|94[gK|9",
    "4[gR|94[gT|94[gS|94@B&|94[hL|949|94[hK|94[hF|94[hG|94@V$|94[hE|94[hi|94[hj|94[hg|94@V+|94@0o|94[",
    "hV|94xX|94[hP|94@4r|94[ho|94xJ|94[hk|94[hm|94[hl|94[hu|94[hv|94@B.|94[hr|94[ht|94[hs|9r@Rf|9rw!|",
    "9r@M^|9r@QC|9r@JI|9r@Al|9r@LO|9r@LJ|9ry]|9r@M7|9r@N@|9r@H.|9r@P2|9rxX|9r@9!|9r@M9|9r@T@|9rv0|9r@",
    "WE|9r@JJ|9r@Jf|9r)K|9r@LQ|9r@QE|9rz+|9r@9O|9r@Mi|9r@WD|9r@Ra|9r@L?|9r@B&|9r@VP|9r@S:|9r@VC|9rxy|",
    "9r(8|9r@QF|9r@Mj|9r@La|9r@Mf|9rzj|9r$1|9r@S&|9r@Np|9r@JG|9r@JB|9r@I*|9r@M8|9r@Sq|9r@WF|9r@Sy|9r!",
    "]|9r@WJ|9r@PT|9r!O|x&0vS|x&0tr|x&0xT|x&0u=|x&0uq|x&0x3|x&0v0|x&0td|x&0ww|x&0wE|x&0wM|x&0wt|x&0%_",
    "|x&0z*|x&0%Y|x&0ub|x&0ue|x&0uw|x&0up|x&0#b|x&0xy|x&0w9|x&0t]|x&0%a|x&0)f|x&0yd|x&0v#|x&0wI|x&0uY",
    "|x&0x[|x&0F|x&0z0|x&0f|x&0#w|x&0t6|x&0t1|x&0n|x&0#G|x&0@BZ|x&0yM|x&0ti:U!#|x&0tiue$P|x&0ti:U@JH|",
    "x&0ti:U&U|x&0ti:Uue|x&0ti:U@_a|x&v1x0|x&v1xhwJ|tD4yX|tD4@)N|tD4@2B|tD4@4e|tD4[e_|tD4)q|tD4@u:|tD",
    "4.Y|tD4@2%|tD4@N9|tD4[9X|tD4@LB|tD4+g|tD4+9|tD4:?|tD4@0R|tD4@&2|tD4@&5|tD4@2q|tD4@02|tD4.p|tD4@8",
    ":|tD4*(|tD4@3%|tD4@0q|tD4@4w|tD4@It|tD4:B|tD4?p|tD4=E|tD4@7[|tD4@Ph|tD4=?|tD4@8k|tD4@8@|tD4@Q9|t",
    "D4t6|tD4w*|tD4yG|tD4@L*|tD4!j|tD4[fF|tD4xi|tD4@u=|tD4#]|tD4@8e|tD4@NA|tD4[9a|tD4@LC|tD4(0|tD4):|",
    "tD4!#|tD4.E|tD4@&A|tD4@&6|tD4w!|tD4#D|tD4$0|tD4@8=|tD4!9|tD4:y|tD4(g|tD4@B=|tD4@1T|tD4*Z|tD4:b|t",
    "D49|tD4zS|tD4@Pj|tD4#0|tD4y]|tD4yU|tD4%v|tD4F|tD4yz|tD4[C_|tD4t]|tD4@7V|tD4v#|tD4[e!|tD4tr|tD4yK",
    "|tD4vS|tD4?Y|tD4?S|tD4[2d|tD4@O+|tD4@7E|tD4yd|tD4xU|tD4uq|tD4x3|tD4x+|tD4@&3|tD4uw|tD4uS|tD4u=|t",
    "D4:Y|tD4up|tD4wI|tD4xy|tD4#b|tD4wM|tD4wE|tD4@Pv|tD4uY|tD4td|tD4:E|tD4?m|tD4v0|tD4ub|tD4ue|tD4wy|",
    "tD4x.|tD4[Ie|tD4?6|tD4@0j|tD4[fQ|tD4??|tD4@u?|tD4@IL|tD4@8h|tD4@NB|tD4[9e|tD4@LE|tD4@75|tD4@VN|t",
    "D4:]|tD4@B3|tD4@&C|tD4@&8|tD4:Q|tD4@SB|tD4@J.|tD4@PV|tD4@0H|tD4@AO|tD4@WC|tD4[ip|tD4@6G|tD4@Ml|t",
    "D4@P!|tD4@4p|tD4?Q|tD4@91|tD4@?5|tD4@8w|tD4@98|tD4[Gm|tD4n|tD4)+|tD4$m|tD4@M5|tD4(e|tD4[fj|tD4&J",
    "|tD4@u@|tD4!l|tD4@8i|tD4@NC|tD4[9f|tD4@7F|tD4)b|tD4.I|tD4z+|tD4@B6|tD4@&E|tD4@&9|tD4!u|tD4!7|tD4",
    "$1|tD4@30|tD4z)|tD4%W|tD4&+|tD4@B[|tD4@6N|tD4+r|tD4@97|tD4xJ|tD4z]|tD4@92|tD4$j|tD4x]|tD4zC|tD4@",
    "9I|tD4t1|tD4wi|tD4@Pp|tD4zA|tD4@7g|tD4zj|tD4@Br|tD4$P|tD4@I1|tD4&U|tD4@8g|tD4@2e|tD4[9c|tD4@LD|t",
    "D4@:u|tD4(5|tD4)A|tD4tG|tD4#l|tD4@Ju|tD4@&7|tD4#!|tD4zg|tD4#M|tD4@8?|tD4zV|tD4(R|tD4&*|tD4@B@|tD",
    "4&X|tD4(8|tD4@Pz|tD4xX|tD4z#|tD4@90|tD4%p|tD4z$|tD4xo|tD4)p|tD4f|tD4xM|tD4@Pf|tD4x#|tD4@Lz|tD4z.",
    "|tD4[f1|tD4x_|tD4@1D|tD4%8|tD4@2$|tD4@N8|tD4[2f|tD4[9W|tD4@20|tD4@:q|tD4&d|tD4$x|tD4xv|tD4yO|tD4",
    "=q|tD4@&4|tD4x%|tD4#X|tD4#7|tD4@2_|tD4!h|tD4y1|tD4#a|tD4%5|tD4)L|tD4&f|tD4*r|tD4#o|tD4!O|tD4@8^|",
    "tD4@8_|tD4(!|tD4@:)|tD4y[|tD4yT|tD4@9G|tD4#$|tD4@2s|tDx0|tDxhwJ|tD!6j|tD4?jyd|tD4?jtd|tD4?j@0H|t",
    "DB@+a|tDB[16|tDB[Yq|tDB@Pt|tDB@t^|tDB@1(|tDB.5|tDB@1b|tDB@&[|tDB[2z|tDB[Z0|tDB#M-t1|tDB@_?|tDEvV",
    "|tDEt0|tDEt3|tDEtC|tDEtQ|tDEtX|tDEt=|tDEuB|tDEt?|tDEuF|tD4?jub|tD4?j#M|k50@W4|k30@W4|k50@1u|k30@",
    "1u|k50vc*M|k30vc*M|k50xW|k30xW|k50@6l|k30@6l|k50@8u=3|k30@8u=3|k50@IWwO|k30@IWwO|k50yY@0n|k30yY@",
    "0n|k50(f2%7@0n|k30(f2%7@0n|k50$))@|k30$))@|k50vcxJ|k30vcxJ|k50$)F|k30$)F|k50y5wZzw|k30y5wZzw|k50",
    "@ICzw|k30@ICzw|k50$)y5wZzw|k30$)y5wZzw|k50=G|k30=G|k50vc%(|k30vc%(|k50%##7|k30%##7|k50%##9|k30%#",
    "#9|k50%##B|k30%##B|k50@2=t1|k30@2=t1|k50@I6t1|k30@I6t1|k50i@2=t1|k30i@2=t1|k0[A$t1|Xk[eL|Xkvv+!1",
    "|XkuE+!1|Xkux+!1|[Tvy4|Xk0@0d$n|Xk0t6|Xk09|Xk0n|Xk0(#1|Xk0(f|Xk0%#1|Xk0wO|Xk)j|Xk@Qx|k)j|k@Qx|k5",
    "0@6u|k30@6u|k50@KA|k30@KA|k50@W5|k30@W5|k50@5[|k30@5[|k50@KB|k30@KB|k50xv2tRtW|k30xv2tRtW|k50@0b",
    "|k30@0b|k50@Us|k30@Us|k50@Uq|k30@Uq|k50@T_|k30@T_|k50@7j|k30@7j|k50+^|k30+^|k50it1|k30it1|k50#Kt",
    "1|k30#Kt1|t80k(#1|t80k%#1|Xk0(s|Xk0$)f|O0F|O0td|O0n|O0z]|O0yX|O0@02|O0@A?|O0t1|O0%v|O0t6|O0uw|O0",
    "tr|O0@3r|O0@S0|O0@Nd|O0@8l|O0.5|O0@2^|O0@96|O0uz|O0@49|O0x]|O0@3(|O0!9|O0@St|O0@AI|O0@2m|O0+u|O0",
    "@P]|O0zC|O0@P#|O0@4q|O0%W|O0@B)|O0uY|O0@9A|O0@M%|O0@9i|O0?p|O0@9C|O0@RU|O0@Bv|O0)q|O0+g|O0!7|O0!",
    "u|O0y]|O0yU|O0@9[|O0:p|O0:F|O0@Po|O0?m|O0w9|O0(R|O0@9x|O0)b|O0@74|O0v#|O0ue|O0w!|O0xi|O0@2y|O0z#",
    "|O0@Ot|O0@3q|O0(F|O0ub|O0!#|O0zS|O0z$|O0:S|O0.D|O0?S|O0vv|O0@P@|O0@SR|O0@+9|O0[2a|O0[2J|OXj[2U|O",
    "Xj[aA|O@Pw|OxhwJ|OzY|Ox0|O&v|O!6j|t80(oti)[@9l|t80(oti&%@9l|t80(oti)[@Sn|t80(oti&%@Sn|t80(oti)[?",
    "_|t80(oti&%?_|t80(oti)[!7|t80(oti&%!7|t80)Y-uAyFtiu0|t80uAyFtiu0|t80(GyFtiu0|t80t_yFtiu0|t80)Y-t",
    "_yFtiu0|t80)Y-uAyFc-#ktiu0|t80uAyFc-#ktiu0|t80(GyFc-#ktiu0|t80t_yFc-#ktiu0|t80)Y-t_yFc-#ktiu0|t8",
    "0)Y-uAc-#ktiu0|t80uAc-#ktiu0|t80(Gc-#ktiu0|t80t_c-#ktiu0|t80)Y-t_c-#ktiu0|t80tAtJu0|t80tA$]|t80t",
    "At*u0|t80t)Zy=v+|t80zLtjQ|t80zLt$Q|t80zL!nj|t80zLwu!nj|t80t_wu!nj|t80@0KPuAti|t80@0KPt_ti|750@1w",
    "t^|730@1wt^|750@1wyC|730@1wyC|750?4|730?4|750@U:|730@U:|750@Ud|730@Ud|750@1Y|730@1Y|750@1Y2x0|73",
    "0@1Y2x0|7035uV|7035tt|750ve|730ve|750@10|730@10|750wA|730wA|750.U|730.U|750.U2t*u0|730.U2t*u0|75",
    "0&S|730&S|750vctb2tA|730vctb2tA|750v32tM|730v32tM|750v32uftM|730v32uftM|750v32tMPuftM|730v32tMPu",
    "ftM|750.et+|730.et+|750t+2uAtM|730t+2uAtM|750t12ugtM#C|730t12ugtM#C|750t12!Z|730t12!Z|750x.|730x",
    ".|750vQ2tM%Xyl|730vQ2tM%Xyl|750vQ2=*|730vQ2=*|750vQ2@TYwK|730vQ2@TYwK|750x62tM%Xyl|730x62tM%Xyl|",
    "750x62uftM|730x62uftM|750tu@08|730tu@08|750@3t@08|730@3t@08|750v52uftM|730v52uftM|750@Bh|730@Bh|",
    "750@VIvR|730@VIvR|750+22tM|730+22tM|750+22tM%Xyl|730+22tM%Xyl|750@VB|730@VB|750&2|730&2|750*X|73",
    "0*X|750@I[|730@I[|t80@4Z|730@(F|730&k|730[A%|730[GI|730@3t|7035@3t|730@0Z|730(a|750#ytV|730#ytV|",
    "750#yuV|730#yuV|750#yu[|750ul#yu[|730ul#yu[|750ult+|730ult+|750#ytu|730#ytu|750#ytt|730#ytt|750#",
    "yu]|730#yu]|t80t_v.wf|t80zY|t80v:z21|750@SQ|730@SQ|750ulvB|730t+2yatWP&:|70[TetA|750u52yl|730u52",
    "yl|750tb2u0|730tb2u0|730tb2!3tW|730vB2!3tW|750t42=*|730t42=*|750uV2tM|730uV2tM|750=7z0|730=7z0|7",
    "50=7yM|730=7yM|750=7#G|730=7#G|750u[2$ptM|730u[2$ptM|750v32$ptM|730v32$ptM|750u52$ptM|730u52$ptM",
    "|750tu2$ptM|730tu2$ptM|750tt2$ptM|730tt2$ptM|750vB2tW|750vcujf|750uhu[|750t+2&:|75035t6|7035x6|7",
    "50ulv3|750ulu]|750vt2#K-wK|750!m|750#[|730#[|750wO|730wO|750n2tM|730n2tM|750z9F|730z9F|750z9t6|7",
    "30z9t6|750z9n|730z9n|750e@9qt1|730e@9qt1|750@HKv(|730@HKv(|750tb2!3tW|750tt2tW|750vR2!3tW|750tV2",
    "v:tM#C|730tV2v:tM#C|750tt2v:tM#C|730tt2v:tM#C|750y5#yu[|730y5#yu[|730i+2|730i@4j|750tR@Satt|730t",
    "R@Satt|750@S?tt|730@S?tt|t805tb|t805uV|t805x6|750vct(vB|730vct(vB|7.$0$8t6|t805vB2tM|t803YyM|703",
    "5uluz|7.$0vcuV|7.$0vcvQ|7.$0wuuz|7.$0t6@2x|7.$0yiuz|yJyH0F|yJyH0t6|yJyH1@(X|yJyH0n|yJyH0f|yJyH0t",
    "1|yJyH1@Lu|yJyH0z#|yJyH0&h|yJyH0%p|yJyH0@LU|yJyH1xa|yJyH0&X|yJyH0&?|yJyH0(8|yJyH0@_e|yJyH0@BU|yJ",
    "yH0@4S|yJyH0@6a|yJyH0@Jc|yJyH0tG|yJyH0#l|yJyH0#M|yJyH0@Ju|yJyH0xo|yJyH0$P|yJyH0(J|yJyH0&U|yJyH0@",
    "I1|yJyH0z$|yJyH0zg|yJyH0#!|yJyH0@SE|yJyH0zV|yJyH0zA|yJyHH1F|yJyHH1t6|yJyHH1n|yJyHH1f|yJyHH1x.|yJ",
    "yH@3Wj-v)|yJyH@3Wj-um|yJyH@3Wj-vo|yJyH@3Wj-wk|yJyH1yh@Lu|u+uyvAt0yr|u+uyvAt0t(|u+uyvAtC%R|u+uyvA",
    "t0*.|u+uyvAt0ym|u+uyvAtC@3@|u+uyyrj|u+uy@9nj|u+uy*$j|u+uy[NMj|xQ-tr0td|xQ-tr0ww|xQ-tr0v0|xQ-tr0w",
    "9|xQ-tr0wM|xQ-tr0wt|xQ-tr0wE|xQ-tr0wy|xQ-tr0uq|xQ-tr0x3|xQ-tr0u=|xQ-tr0ue|xQ-tr0tr|xQ-tr0xT|xQ-t",
    "r0vS|xQ-tr0ub|xQ-tr0z*|xQ-tr0%Y|xQ-tr0%_|xQ-tr0v#|xQ-tr0#b|xQ-tr0xy|xQ-tr03F|xQ-tr0uY|xQ-tr0uS|x",
    "Q-tr0uw|xQ-tr0wI|xQ-tr0up|xQ-tr0t]|xQ-tr0F|xQ-tr0t6|xQ-tr0n|xQ-tr0f|xQ-tr0t1|xQ-tr0#%|xQ-tr0%a|x",
    "Q-tr0yd|xQ-tr0.?|xQ-tr0yX|xQ-trvu0v#|xQ-trvu0uY|xQ-tr0xr|xQ-tr0yb|xQ-tr0xs|xQ-tr0yI|xQ-tr0yhuY|x",
    "Q-tr0[d*wI|xQ-tr0&Nt]|xQ-tr0@qmyd|xQ-trvu0uS|xQ-tr[V@0uS|xQ-tr0zG|xQ-trvmz@j|xQ-triz@j|xQ-trj$@|",
    "xQ-trji$@|v%1xa|v%1y.|v%0F|v%0ve|v%0t6|v%0v]|v%0n|v%0wL|v%0u3tu|v%0u3ys|v%0u3t+|v%0u3zB|v%0f|v%0",
    "yX|v%0v*|v%0t1|v%0x.|v%0wA|v%0td|v%0ww|v%0v0|v%0x[|v%0w9|v%0wM|v%0wt|v%0wE|v%0z4|v%0wy|v%0xr|v%0",
    "yb|v%0xs|v%0yk|v%0yI|v%0uq|v%0x3|v%0u=|v%0x+|v%0ue|v%0tr|v%0xT|v%0vS|v%0yK|v%0ub|v%0uY|v%0uS|v%0",
    "uw|v%0xU|v%0wI|v%0yt|v%0up|v%0t]|v%0!Y|v%vi1@?:|v%H1ve|v%H1t6|v%H1v]|v%H1n|v%H1wL|v%H1u3tu|v%H1u",
    "3ys|v%H1u3t+|v%H1u3zB|v%H1f|v%H1yX|v%H1v*|v%H1t1|v%H1x.|v%H1wA|v%1yg|v%1zG|v%zz|v%izz|v%EvV|v%Et",
    "0|v%Et3|v%EtC|v%EtQ|v%EtX|v%Et=|v%EuB|v%Et?|v%EuF|Xt.EvV|Xt.Et0|Xt.Et3|Xt.EtC|Xt.EtQ|Xt.EtX|Xt.E",
    "t=|Xt.EuB|Xt.Et?|Xt.EuF|Xt.0F|Xt.0n|Xt.0td|Xt.0ue|Xt.0tr|Xt.0uS|Xt.0):|Xt.1$z|t.1@AgzG|t.1zGyg|t",
    ".1izGyg|t.1zGt3|t.1zGtC|t.1zG$z|t.1[Mc|t..=(3|t.(n|t.@7Z|t.1vE|t.@_N&B|t.0&S|t.H1&S|xlw!EvV|xlw!",
    "Et0|xlw!Et3|xlw!EtC|xlw!EtQ|xlw!EtX|xlw!Et=|xlw!EuB|xlw!Et?|xlw!EuF|xlw!0td|xlw!0ww|xlw!0v0|xlw!",
    "0w9|xlw!0up|xlw!0wI|xlw!0xy|xlw!0wy|xlw!0uq|xlw!0@M3|xlw!0ue|xlw!0tr|xlw!0xT|xlw!0ub|xlw!0u=|xlw",
    "!0vS|xlw!0uS|xlw!0uY|xlw!0uw|xlw!0v#|xlw!0x3|xlw!0t]|xlw!0xU|xlw!0wM|xlw!0F|xlw!0yM|xlw!0t6|xlw!",
    "0x.|xlw!H#G|xlw!Hf|xlw!Hn|xlw!HyX|xlw!Ht1|xlw!ti@RB|xlw!ti@Ig|xlw!ti@Ig@RB|xlw!1@6T|xlw!1[TI|y^0",
    "td|y^0v0|y^0w9|y^0uq|y^0u=|y^0ue|y^0tr|y^0vS|y^0ub|y^0wM|y^0wE|y^0wy|y^0up|y^0uS|y^0uw|y^0uY|y^0",
    "v#|y^0t]|y^0?Y|y^0?m|y^0:Y|y^0[Gj|y^0F|y^H1t6|y^H1n|y^H1f|y^H1v*|y^H1t1|y^H1wA|y^H1#w|y^H1@6v|y^",
    "vi1#$|y^vi1u5|y^vi1tu|y^vi1vB|y^yg|y^y*j|UuZyW-ye|UuZyW-wV|UuZyW-w3|UuZyW-!M|UuZw5-y6|UuZw5-.2|U",
    "uZw5-yW|UuZw5-:&|UuZw5-ye|UuZw5-wV|UuZw5-:%|UuZw5-+s|UuZw5-w3|UuZw5-!M|UuZw5-$+|UuZye-y6|UuZye-y",
    "W|UuZye-w3|UuZwV-w3-#(|UuZwV-$+|UuZwV-y?|UuZ(U-wV|UuZ!s-w5|UuZ!s-y?|UuZ@0I-y?|UuZ[Uu|UuZ#W-y?|Uu",
    "Zy?-w3|UuZ[Uv|vX1[Jm|vX1@Is|vX1[40|vX1[fD|vX0F|vX0t6[0^|vX0t6|vX0v]|vX0n|vX0tr@xp|vX0w9@Ng|vX0w9",
    "@Ng[Oc|vX0f|vX0v*|vX0t1|vX0td|vX0td*%|vX0td&m|vX0v0|vX0v0&m|vX0w9|vX0wM|vX0wM&m|vX0wE|vX0wy&m|vX",
    "0wE*i|vX0wy|vX0xr|vX0xr*i|vX0xs|vX0xs*i|vX0ue&m|vX0uq|vX0uq&m|vX0u=|vX0u=*i|vX0ue|vX0tr|vX0tr&m|",
    "vX0vS|vX0vS&m|vX0ub|vX0uY|vX0uS|vX0uS@p2|vX0uw|vX0v#|vX0up&m|vX0up*i|vX0up|vX0t]|vX1@Is[X$|vXH1[",
    "Xe|vXH1[Y[|vXH1@Vj|vXH1@Vj[8=|vXH1@47|vXH1@47[8^|vXH1@0N|vXH1@&e[A]|vXH1@9f|vXvi1[1G|vXvi1[KI|vX",
    "vi1@If|vX[Je|vXc@R.|vXZ@R.|vX&E@pr|vX&E[7x|vX&E[5G|vX&E@Vd|vX&E[Jd|vX&E[4s|vX&E[5J|vX&E=M|vX&E=M",
    "=M|vX&E@R5|vXul&E@R5|vX[Jh|vXEvV|vXEt0|vXEt3|vXEtC|vXEtQ|vXEtX|vXEt=|vXEuB|vXEt?|vXEuF|vX&E[Yw[a",
    "E|vX&E@MU-@MU|tU0yBx[|tU0yBwt|tU0yBz4|tU0yByI|tU0yByK|tU1yB@A7|tUt80yB@R&|tU0t5!twy|tU0t5!tyd|tU",
    "0t5!tv0|tU0t5!tx[|tU0t5!twE|tU0t5!tz4|tU0t5!txs|tU0t5!tyk|tU0t5!tyI|tUt5!tEvV|tUt5!tEt0|tUt5!tEt",
    "3|tUt5!tEtC|tUt5!tEtQ|tUt5!tEtX|tUt5!tEt=|tUt5!tEuB|tUt5!tEt?|tUt5!tEuF|tU0t5!t!Y|tU0t5!tu=|tU0t",
    "5!tx+|tU0t5!tvS|tU0t5!tyK|vx0F|vx0t6|vx0n|vx0f|vx0v*|vx0t1|vx0td|vx0ww|vx0v0|vx0x[|vx0[Ds|vx0w9|",
    "vx0wt|vx0@y9|vx0wE|vx0z4|vx0[D$|vx0:a|vx0[D#|vx0uq|vx0x3|vx0u=|vx0x+|vx0[GH|vx0ue|vx0xs|vx0tr|vx",
    "0[Lw|vx0xT|vx0vS|vx0yK|vx0[Au|vx0ub|vx0+Q|vx0uY|vx0uS|vx0uw|vx0xU|vx0yt|vx0up|vx0t]|vxH1ve|vxH1t",
    "6|vxH1v]|vxH1)U|vxH1n|vxH1yM|vxH1t1|vxH1v*|vxH1wA|vxH1#G|vxvi1uY|vxvi1uS|vxvi1uw|vxvi1v#|vx0t2v3",
    "|vx0t2u[|vx0t2#$|vxvi1t2#$|vx0t2@Ix|vx0t2u]|vx0t2u5|vx0t2vQ|vx0t2u?|vx0t2tu|vx0t2t+|vx0t2@44|vxv",
    "i1t2uz|vxvi1t2vB|vxEvV|vxEt0|vxEt3|vxEtC|vxEtQ|vxEtX|vxEt=|vxEuB|vxEt?|vxEuF|vxv1.1|vxv1zz|vxv1i",
    "zz|vxv1x9zz|tU0!(v0|tU0!(wM|tU0!(wt|tU0!(wE|tU0!(z4|tU0!(wy|tU0!(xr|tU0!(yb|tU0!(xs|tU0!(yk|tU0!",
    "(x+|tU0!(ue|tU0!(up|tU0!(t]|tU0!()f|tU0!(yd|tUt80!(@R&|tU0!(%a|tU0!(xy|tU0!(uS|tU*g!(@QG|tU*g!([",
    "NF|tU*g!(@[Y|tUB.R!n|tUB.Rt0|tUB.Rt3|tU0.RuS|tU1[Jq$Mti|tU1t5!tti-um|tU1t5!tti-x4|tU0+^@3Jwt|tU0",
    "+^@3JwI|t5wQ0t_z#|t5wQ0uAz#|t5wQ0t_&h|t5wQ0uA&h|t5wQ0t_@M?|t5wQ0uA@M?|t5wQ0t_%p|t5wQ0uA%p|t5wQ0t",
    "_+%|t5wQ0uA+%|t5wQ0t_&X|t5wQ0uA&X|t5wQ0t_&?|t5wQ0uA&?|t5wQ0t_zV|t5wQ0uAzV|t5wQ0t_)p|t5wQ0uA)p|t5",
    "wQ0t_#M|t5wQ0uA#M|t5wQ0t_tG|t5wQ0uAtG|t5wQ0t_#l|t5wQ0uA#l|t5wQ0t_xo|t5wQ0uAxo|t5wQ0t_&U|t5wQ0uA&",
    "U|t5wQ0t_$P|t5wQ0uA$P|t5wQ0t_(J|t5wQ0uA(J|t5wQ0t_(5|t5wQ0uA(5|t5wQ0t_z$|t5wQ0uAz$|t5wQ0t_xX|t5wQ",
    "0uAxX|t5wQ0t_zg|t5wQ0uAzg|t5wQ0t_#!|t5wQ0uA#!|t5wQ0t_)A|t5wQ0uA)A|t5wQ0t_zA|t5wQ0uAzA|t5wQ0t_t1|",
    "t5wQ0uAt1|t5wQ#T@2S|t5wQHve|t5wQHt6|t5wQH#G|t5wQHn|t5wQHf|t5wQHt1|t5wQ#T[1e|t5wQH@2H|t5wQH[bQ|t5",
    "wQH=2|t5wQH@Hi|t5wQH&S|t5wQHyz|t5wQH(i|t5wQti#T.z|t5wQti#T@P^|t5wQti#T#l|t5wQti#T[U4|t5wQB@N3|t5",
    "wQB@P^|t5wQB@A5|t5wQBzA@]8|t5wQB@84@84|v_v^0f|v_v^0t1|v_v^0wt|v_v^0wy|v_v^0xr|v_v^0yb|v_v^0xs|v_",
    "v^0yk|v_v^0yI|v_v^0wI|v_v^0yt|v_v^H1v]|v_v^H1wL|v_v^H1@G(|v_v^H1wA|v_v^H1@na|v_v^@x[|v_v^@p5[1n|",
    "v_v^@5b|v_v^4@03j|v_v^#H@03j|v_v^H1y.|v_v^yg|b4[Z?|b4@Uw|b4@BT|b4[Z:|b4@Uv|b4@4S|b4@%H|b4@%G|b4@",
    "Jb|b4@%F|b4@%E|b4@Jc|b4@K8|b4@K5|b4@(e|b4@K3|b4*M|b4@K7|b4@xL|b4@xR|b4@xP|b4@xM|b4@xO|b4@xN|b4@x",
    "Q|b4+Q|b4@H+|b4@H)|b4@uH|b4@uL|b4=X|b4@H*|730$!wS|730Fvc-&t|730@5wf|730$!f|730f2=*|730@NhuV|730u",
    "hu[2#K-wK|730t+2wu@8Gtt|730t+2itRu(|730t+2tRuk|730uz2#K-wK|730u52#K-wK|730&b2#K-wK|730@5wt1|730@",
    "5wt12tM|730ujt12tM|730wuyM|730ulyM2tM|730ulyM2t*tM|730ult1uj-t1|730ult1uj-t12tM|730[VTtu|7035tu2",
    "Z#z|730tu@0i@Lt|730itu|730tu2#K-wK|730itu2#K-wK|730uhtu|730uhtu2uk|730@H$$2|730n2v:Z#z|730nu02v:",
    "Z#z|730@4W|730ul@4W|730n2ctW|730!m|730!m2t_Zuk|730!m2t_cq|730vj2t_Zuk|730vj2ugc#z|730vj2ugc#zPt_",
    "Zuk|730vj2ugc#z2q|730u?2v:Z#z|t8xA2wuxA|t803?4|t803t+2wu@8Gtt|t803t+2tRu(|t803n2ctW|730[RB)@|730",
    "$)f|730ujyM|730@V3|730wuwS|a035wO|730(rzl2yatW|730@4Pzl2yatW|730ultu2tRu(|t803ulv(|t80czF|t80ZzF",
    "|t!30F|t!30f|t!30t6|t!30t1|t!30n|t!30v5|t!30v0|t!30td|t!30(!|t!30#0|t!30%p|t!30$j|t!30@Lk|t!30t]",
    "|t!30x#|t!30yG|t!30zA|t!30$m|t!30@2G|t!30uw|t!30x%|t!30w!|t!30#!|t!30!u|t!30@N)|t!30ub|t!30y[|t!",
    "30y]|t!30z$|t!30x]|t!30ue|t!30@7e|t!30@8(|t!30yT|t!30yU|t!30xo|t!30zC|t!30@9E|t!30@Rg|t!30@Rh|t!",
    "30@Ri|t!30@9*|t!30@9+|t!30@Rl|t!30up|t!30tt|t!30!h|t!30!9|t!30zV|t!30z)|t!30@A(|t!30u=|t!30uq|t!",
    "30#7|t!30xv|t!30$0|t!30!#|t!30#M|t!30$1|t!30@K1|t!30@1o|t!30@BD|t!30@BE|t!30@BG|t!30@BH|t!30@BI|",
    "t!30@UR|t!30z*|t!30%(|t!30.G|t!30@4Q|t!30@4R|t!30@Ur|t!30v#|t!30z.|t!30!j|t!30zj|t!30(e|t!30@Vl|",
    "t!30uY|v_v^0@N2|v_v^0@A5|v_v^0@2n|v_v^0@8r|v_v^0tr|v_v^0ue|v_v^0@yC|v_v^0@BB|v_v^0[1k|v_v^0@Pr|v",
    "_v^0[YP|v_v^0[ey|v_v^0&%|v_v^0@]V|v_v^0)+|v_v^0t6|v_v^0[Kj|v_v^0@q#|v_v^0@?2|v_v^0@_c|v_v^0[OQ|v",
    "_v^0vS|v_v^0?G|v_v^0@&T|v_v^0@=m|v_v^0@&D|v_v^0@u+|v_v^0@N2*h|v_v^0@2n*h|v_v^0@8r*h|v_v^0tr*h|v_",
    "v^0ue*h|v_v^0@BB*h|v_v^0@Pr*h|v_v^0t6*h|v_v^H1[IW|v_v^H1@^p|v_v^H1@po|v_v^H1[h1|v_v^H1[UB|v_v^H1",
    "[bk|v_v^H1@x^|v_v^H1@9D|v_v^@x]|v_v^&k@MX|v_v^@qD@MX|v_v^EvV|v_v^Et0|v_v^Et3|v_v^EtC|v_v^EtQ|v_v",
    "^EtX|v_v^Et=|v_v^EuB|v_v^Et?|v_v^EuF|UvPt1-&&|UvPt1-t1-t6|UvPxX-F|UvPxX-z0|UvPxX-%k|UvPn-&&|UvPn",
    "-t6-t6|UvPxJ-z0|UvPxJ-t1|UvP#w-F|UvP#w-%k|UvP#w-f|UvP#w-t1|UvPt6-uY-t1|UvPt6-)?|UvPt6-&&|UvPt6-#",
    "o|UvPt6-t1-t6|UvPt6-xX|UvPt6-xJ|UvPt6-t6|UvP*4-F|UvP*4-f|UuKy%-w5|UuKy%-#^|UuK:&|UuK:&-wV|UuKyW-",
    "wV|UuKyW-w3|UuKyW-w3-y6|UuKyW-!M|UuKyW-#^|UuKyW-#(|UuKw5-.2|UuKw5-y6-y?|UuK@Ak-$+|UuKw5-ye-y?|Uu",
    "Kw5-wV-yW|UuKw5-wV-#W|UuKw5-)C|UuKw5-=F-y?|UuK@Mt|UuKye-y%|UuKye-@45|UuK[Ut|UuKye-wV-w3|UuKye-!M",
    "|UuKwV-yW|UuKwV-w5-#W|UuKwV-ye|UuK:%|UuKwV-w3-yW|UuKwV-!M|UuKwV-#^|UuKw3-ye|UuKw3-+s|UuK(U-y6|Uu",
    "K(U-yW|UuKw3-%Q|UuKw3-!M|UuKw3-#^|UuKw3-#(|UuKw3-y?|UuK%Q-wV|UuK%Q-+s|UuK)C-ye|UuK)C-y?|UuK!M-wV",
    "|UuK!M-:%|UuK@0I|UuK#W-w3|UuK#W-#(|73Y@+l|73Y(0|73Y@+&|73Y@+m|73Y@+n|73Yugttu]|73Y@Ao|vI3Y(F@35|",
    "vI3Y(F.y|vI3Y(F@7r|vI3Y@Bg@35|vI3Y(F@Bw|uM0)D2@L+|uM!g[00-[UJ[dL|uMY@4o)D)D@3N|uM0@5Z$c|uM0xft^|",
    "uM0xf@1a|uM0xfx#|uM0xfxu|uM0xf@2o|uM0xft2#h|uM0xf$R|uM0xf@A[|uM0@5Zts1|uM0zU2zUtA|uM0zU2@3?tA|uM",
    "0zU2!^PzUtA|uM0zU2!^P@3?tA|uM0t^2@3N|uM0t^2@3e|uM0t^2@8b|uM0.a2!^|uM0$i2!^|uM0@1a2!^|uM0x#2@8b|u",
    "M0=62!^|uM0%c2!^|uM0.D2!^|uM0)D2!^|uM0t2xu2!^|uM0xu2!^|uM0@2o2!^|uM0#h2!^|uM0xB2!^|uM0$?2!^|uM0t",
    "2x_2!^|uM0x_2!^|uM0@BQ2!^|uM0@9(2!^|uM0$R2!^|uM0zU2!^|uM0@A[2!^|uM0=62@7f|uM0.a2@3k|uM0xu2@3k|uM",
    "0x_2@3k|uMYt^@2o|80t^@4dtPG|80t^@4dt2G|80=YtPG|80=Yt2G|80=YtcG|80=YvCG|80)rtPG|80)rt2G|80)rtcG|8",
    "0)rvCG|80=ZtPG|80=Zt2G|80=ZtcG|80=ZvCG|80@0YtPG|80@0Yt2G|80@0YtcG|80@0YvCG|80@0PtPG|80@0Pt2G|80@",
    "0PtcG|80@0PvCG|80=0tPG|80=0t2G|80=0tcG|80=0vCG|80@0ftPG|80@0ft2G|80@0ftcG|80@0fvCG|80?(tPG|80?(t",
    "2G|80?(tcG|80?(vCG|80=wtPG|80=wt2G|80=wtcG|80=wvCG|80?ttPG|80?tt2G|80?ttcG|80?tvCG|80.AtPG|80.At",
    "2G|80.AtcG|80.AvCG|80@0OtPG|80@0Ot2G|80@0OtcG|80@0OvCG|80@6XtPG|80@6Xt2G|80@6UtPG|80@6Ut2G|80@6s",
    "tPG|80@6st2G|80@6YtPG|80@6Yt2G|80@7%tPG|80@7%t2G|80@A2tPG|80@A2t2G|80&gtPG|80&gt2G|80&gtcG|80&gv",
    "CG|80(ztPG|80(zt2G|80(ztcG|80(zvCG|80?3tPG|80?3t2G|80?3tcG|80?3vCG|80?ntPG|80?nt2G|80?ntcG|80?nv",
    "CG|80wq=]tPG|80wq=]t2G|80@05tPG|80@05t2G|80@05tcG|80@05vCG|80x$2tngtPG|80x$2tngt2G|80x$*TtPG|80x",
    "$*Tt2G|80x$*TtcG|80x$*TvCG|80x$=ttPG|80x$=tt2G|80x$=ttcG|80x$=tvCG|80tn)HtPG|80tn)Ht2G|80tn)H2v[",
    "gtPG|80tn)H2v[gt2G|8BtAg|8BtAt9|8Bt3pg|8Bt3pt9|8BtCpg|8BtCpt9|8BtCpt[u%g|8BtCpt[u%t9|8BtQpg|8BtQ",
    "pt9|8BitJu0t9|8Bt3p+Ag|8Bt3p+At9|8Buk|8B3yvg|8B3yvt9|8B@4dg|80#$tPG|80#$t2G|80#$tcG|80#$vCG|80nt",
    "PG|80nt2G|80yMtPG|80yMt2G|80xJtPG|80xJt2G|80n2v[gtPG|80$xtPG|80$xt2G|80(AyMtPG|80(AyMt2G|80(AxJt",
    "PG|80(AxJt2G|80ftPG|80ft2G|80ftcG|80fvCG|80@0c@Mx(At^whtcG|80@0c@Mx(At^whvCG|8Ytn2v[g2t^tPG|8Ytn",
    "2v[g2t^t2G|8Ytn2v[g2z0tPG|8Ytn2v[g2z0t2G|8Ytn2v[g2yPtPG|8Ytn2v[g2yPt2G|8Ytn2v[g2ntPG|8Ytn2v[g2nt",
    "2G|8Ytn2v[g2yMtPG|8Ytn2v[g2yMt2G|8Ytn2v[g2xJtPG|8Ytn2v[g2xJt2G|8Ytn2v[g2ftPG|8Ytn2v[g2ft2G|8Ytn2",
    "v[g2ftcG|8Y@0c(Atn2v[g2t^whtPG|8Y@0c(Atn2v[g2t^wht2G|8Y@0c(Atn2v[g2t^whtcG|80%mtntPG|80%mtnt2G|8",
    "0%mtntcG|80%mtnvCG|8Ytn2v[g2u_tPG|8Ytn2v[g2uttPG|8Ytn2v[g2tgtPG|8Ytn2v[g2t^whtPG|8Ytn2v[g2tntPG|",
    "8YyD2u_tPG|8YyD2uttPG|8YyD2wmtPG|8YyD2tgtPG|8YyD2t^whtPG|8YyD2tntPG|8Yxe2u_tPG|8Yxe2uttPG|8Yxe2w",
    "mtPG|8Yxe2tgtPG|8Yxe2t^whtPG|8Yxe2tntPG|8Y#52u_tPG|8Y#52tgtPG|8Y#52t^whtPG|8Y#52tntPG|8Yu_2uttPG",
    "|8Yu_2tgtPG|8Yut2u_tPG|8Yut2tgtPG|8Ywm2u_tPG|8Ywm2uttPG|8Ywm2tgtPG|8Yxq2u_tPG|8Yxq2uttPG|8Yxq2wm",
    "tPG|8Yxq2tgtPG|8YzM2uttPG|8YzM2tgtPG|8Yza2u_tPG|8Yza2uttPG|8Yza2wmtPG|8Yza2tgtPG|8Yyv2uttPG|8Yyv",
    "2tgtPG|8Y%.2tgtPG|8YyC2u_tPG|8YyC2tgtPG|8Y!p2u_tPG|8Y!p2tgtPG|8Yy#2u_tPG|8Yy#2uttPG|8Yy#2wmtPG|8",
    "Yy#2tgtPG|8Yy#2t^whtPG|8Yy#2tntPG|8Yz62uttPG|8Yz62tgtPG|8Yz62t^whtPG|8Yz62tntPG|8Yxu2t^tPG|8Yxu2",
    "u_tPG|8Yxu2uttPG|8Yxu2wmtPG|8Yxu2wFtPG|8Yxu2tgtPG|8Yxu2t^whtPG|8Yxu2tntPG|8YwF2u_tPG|8YwF2uttPG|",
    "8YwF2wmtPG|8YwF2tgtPG|8YwF2t^whtPG|8YwF2tntPG|8Ytg2u_tPG|8Ytg2uttPG|8Ytg2wmtPG|8Ytg2tgtPG|8Ytg2t",
    "^whtPG|8Ytg2tntPG|8Ywq2u_tPG|8Ywq2uttPG|8Ywq2wmtPG|8Ywq2tgtPG|8Ywq2t^whtPG|8Ywq2tntPG|8Yx$2u_tPG",
    "|8Yx$2tgtPG|8Yx$2t^whtPG|8Yx$2tntPG|8Ytn2u_tPG|8Ytn2uttPG|8Ytn2wmtPG|8Ytn2tgtPG|8Ytn2t^whtPG|8Yt",
    "n2tntPG|8Y+02!St^tPG|8Yy)2!St^tPG|8Yt^wh2!St^tPG|8Y%z2=ptPG|8Y%z2?MtPG|8Y%z2%ntPG|8Y%z2&^tPG|8Y%",
    "z2%rtPG|8Y%z2!St^tPG|8Ytn2v[g2y)t2G|8Ytn2v[g2%4t2G|8Ytn2v[g2tgt2G|8Ytn2v[g2wqt2G|8Ytn2v[g2t^wht2",
    "G|8Ytn2v[g2tnt2G|8YyD2y)t2G|8YyD2%4t2G|8YyD2tgt2G|8YyD2wqt2G|8YyD2t^wht2G|8YyD2tnt2G|8Yxe2y)t2G|",
    "8Yxe2%4t2G|8Yxe2tgt2G|8Yxe2wqt2G|8Yxe2t^wht2G|8Yxe2tnt2G|8Y#52y)t2G|8Y#52%4t2G|8Y#52tgt2G|8Y#52w",
    "qt2G|8Y#52t^wht2G|8Y#52tnt2G|8Yy#2t^wht2G|8Yy#2tnt2G|8Yz62t^wht2G|8Yz62tnt2G|8Yxu2t^t2G|8Yxu2wFt",
    "2G|8Yxu2tgt2G|8Yxu2t^wht2G|8Yxu2tnt2G|8YwF2tgt2G|8YwF2t^wht2G|8YwF2tnt2G|8Ytg2t^t2G|8Ytg2tgt2G|8",
    "Ywq2y)t2G|8Ywq2%4t2G|8Ywq2tgt2G|8Ywq2wqt2G|8Ywq2t^wht2G|8Ywq2tnt2G|8Yt^wh2!St^t2G|8Ytn2y)t2G|8Yt",
    "n2%4t2G|8Ytn2tgt2G|8Ytn2wqt2G|8Ytn2t^wht2G|8Ytn2tnt2G|8Ytn2v[g2u_tcG|8Ytn2v[g2uttcG|8Ytn2v[g2wmt",
    "cG|8Ytn2v[g2tgtcG|8Ytn2v[g2x$tcG|8YyD2u_tcG|8YyD2uttcG|8YyD2wmtcG|8YyD2tgtcG|8YyD2x$tcG|8Yxe2u_t",
    "cG|8Yxe2uttcG|8Yxe2wmtcG|8Yxe2tgtcG|8Yxe2x$tcG|8Y#52tgtcG|8Yu_2uttcG|8Yu_2tgtcG|8Yut2u_tcG|8Yut2",
    "tgtcG|8Ywm2u_tcG|8Ywm2tgtcG|8Yxq2u_tcG|8Yxq2uttcG|8Yxq2wmtcG|8Yxq2tgtcG|8YzM2uttcG|8YzM2wmtcG|8Y",
    "zM2tgtcG|8Yza2u_tcG|8Yza2uttcG|8Yza2wmtcG|8Yza2tgtcG|8Yyv2uttcG|8Y%.2tgtcG|8YyC2u_tcG|8YyC2tgtcG",
    "|8Y!p2u_tcG|8Y!p2tgtcG|8Yy#2u_tcG|8Yy#2uttcG|8Yy#2wmtcG|8Yy#2tgtcG|8Yz62uttcG|8Yz62tgtcG|8Yxu2u_",
    "tcG|8Yxu2uttcG|8Yxu2wmtcG|8Yxu2wFtcG|8Yxu2tgtcG|8YwF2u_tcG|8YwF2uttcG|8YwF2wmtcG|8YwF2tgtcG|8YwF",
    "2x$tcG|8Ytg2u_tcG|8Ytg2uttcG|8Ytg2wmtcG|8Ytg2tgtcG|8Ywq2u_tcG|8Ywq2uttcG|8Ywq2wmtcG|8Ywq2tgtcG|8",
    "Ywq2x$tcG|8Yx$2u_tcG|8Yx$2tgtcG|8Yx$2!St^tcG|8Ytn2u_tcG|8Ytn2uttcG|8Ytn2wmtcG|8Ytn2tgtcG|8Ytn2x$",
    "tcG|8Ytn2v[g2tgvCG|8Ytn2v[g2x$vCG|8YyD2tgvCG|8YyD2x$vCG|8Yxe2tgvCG|8Yxe2x$vCG|8Y#52tgvCG|8Y#52x$",
    "vCG|8Yxq2tgvCG|8Yxq2x$vCG|8YyN2tgvCG|8YyN2x$vCG|8Yxu2wFvCG|8Yxu2tgvCG|8YwF2tgvCG|8Ywq2tgvCG|8Ywq",
    "2x$vCG|8Ytn2tgvCG|8Ytn2x$vCG|8Y%z2%nvCG|8Y%z2&^vCG|8Y%z2%rvCG|8Yyv2t^whtPG|8Yyv2tntPG|8YyC2t^wht",
    "PG|8YyC2tntPG|8Y!p2t^whtPG|8Y!p2tntPG|8Yxq2t^whtPG|8Yxq2tntPG|8YyN2t^whtPG|8YyN2tntPG|8Yut2t^wht",
    "PG|8Yut2tntPG|8Yu_2t^whtPG|8Yu_2tntPG|8Ywm2t^whtPG|8Ywm2tntPG|8YzM2t^whtPG|8YzM2tntPG|8Yza2t^wht",
    "PG|8Yza2tntPG|8YyN2u_tPG|8YyN2uttPG|8YyN2wmtPG|8YyN2tgtPG|8YyN2y)tPG|8Yxq2y)tPG|8YzM2y)tPG|8Yza2",
    "y)tPG|8Yyv2t^wht2G|8Yyv2tnt2G|8YyC2t^wht2G|8YyC2tnt2G|8Y!p2t^wht2G|8Y!p2tnt2G|8Yxq2t^wht2G|8Yxq2",
    "tnt2G|8YyN2t^wht2G|8YyN2tnt2G|8Yut2t^wht2G|8Yut2tnt2G|8Yu_2t^wht2G|8Yu_2tnt2G|8Ywm2t^wht2G|8Ywm2",
    "tnt2G|8YzM2t^wht2G|8YzM2tnt2G|8Yza2t^wht2G|8Yza2tnt2G|8YyN2u_t2G|8YyN2utt2G|8YyN2wmt2G|8YyN2tgt2",
    "G|8YyN2y)t2G|8Yxq2y)t2G|8YzM2y)t2G|8Yza2y)t2G|8YyN2u_tcG|8YyN2uttcG|8YyN2wmtcG|8YyN2tgtcG|8Yxq2x",
    "$tcG|8YyN2x$tcG|8Yyv2tgtcG|8Yxq2u_vCG|8Yxq2utvCG|8Yxq2wmvCG|8YyN2u_vCG|8YyN2utvCG|8YyN2wmvCG|8Yy",
    "v2tgvCG|8Y%.2tgvCG|8Yt^2+et2G|8Yt^2+etPG|@QWcy8|@QWZy8|8Y[OM@HD|8Y:o=Q@p!|8Y:o=Q@p#|8Y:o=Q@p%|8Y",
    ":o=Q@p&|8Y:o=Q@p(|8Y[RK@0]v#-@nV|8Y@0]#q-@0A|8Y@pP#q-@0A|8Y@pQ#q-@0A|8Y@0]#q-[RH[e)-@0A|8Y[NP[Ti",
    "|8Y[RL@0][esv#-[RM|8Y@pO#q-@0A|8Y[XIv#-@T)|8Y[ON@HD|8Yxe2u_2tgtcG|8Yxe2ut2u_t2G|8Yxe2ut2u_tcG|8Y",
    "xe2ut2tgtcG|8Yxe2wm2tgtcG|8Yxe2tg2u_tcG|8Yxe2tg2uttcG|8Yxe2tg2wmtcG|8Yu_2tg2utt2G|8Yu_2tg2uttcG|",
    "8Yut2tg2tnt2G|8Yut2tg2t^wht2G|8Yxq2ut2u_tcG|8Yxq2u_2uttcG|8Yxq2u_2t^wht2G|8Yxq2tg2utt2G|8Yxq2tg2",
    "uttcG|8Yxq2tg2u_tcG|8Yxq2tg2tgt2G|8Yxq2tg2tgtcG|8YzM2ut2utt2G|8YzM2ut2uttcG|8YzM2tg2tgt2G|8YyN2u",
    "t2tgt2G|8YyN2ut2tgtcG|8YyN2u_2tnt2G|8YyN2tg2wmt2G|8YyN2tg2wmtcG|8YyN2tg2tgt2G|8YyN2tg2tgtcG|8Yza",
    "2ut2t^wht2G|8Yza2wm2tgt2G|8Yza2wm2tgtcG|8Yyv2tg2utt2G|8Yyv2tg2uttcG|8Yyv2tg2tgtcG|8Yyv2tg2tnt2G|",
    "8YyC2u_2tgt2G|8YyC2tg2tgt2G|8YyC2tg2tgtcG|8YyC2tg2t^wht2G|8Y!p2tg2tgt2G|8Y!p2tg2tnt2G|8Y!p2tg2t^",
    "wht2G|8Yy#2wm2tgt2G|8Yy#2wm2tgtcG|8Yz62tg2utt2G|8Yz62tg2tgt2G|8YwF2ut2tgt2G|8YwF2ut2tnt2G|8YwF2u",
    "t2t^wht2G|8YwF2u_2u_tcG|8YwF2u_2u_t2G|8YwF2wm2tgt2G|8YwF2wm2tgtcG|8YwF2tg2utt2G|8YwF2tg2uttcG|8Y",
    "tg2ut2u_tcG|8Ytg2ut2tgtcG|8Ytg2ut2tnt2G|8Ytg2u_2uttcG|8Ytg2u_2tgtcG|8Ytg2wm2u_tcG|8Ytg2wm2tgtcG|",
    "8Ytg2u_2wmtcG|8Yx$2tg2u_tcG|8Yx$2tg2tgtcG|8Ywq2ut2tgtcG|8Ywq2ut2t^wht2G|8Ywq2u_2tgt2G|8Ywq2u_2tg",
    "tcG|8Ywq2u_2t^wht2G|8Ywq2tg2tnt2G|8Ywq2tg2t^wht2G|8Ytn2tg2tgt2G|8Ytn2tg2tgtcG|8YyD2wm2tnt2G|8Yxe",
    "2u_2tnt2G|8Yxe2u_2t^wht2G|8Yxe2wm2tnt2G|8Yxe2wm2t^wht2G|8Yxe2tg2tnt2G|8Yxe2tg2t^wht2G|8Yu_2tg2tn",
    "t2G|8Yu_2ut2t^wht2G|8Yu_2tg2t^wht2G|8Yxq2wm2t^wht2G|8YzM2ut2tnt2G|8YyN2ut2tnt2G|8Yza2ut2tnt2G|8Y",
    "wF2u_2tnt2G|8YwF2tg2tnt2G|8Ytn2ut2tnt2G|8Ytn2u_2tnt2G|8Ytn2tg2tnt2G|8Ytg2tg2tnt2G|8Yz62tg2tnt2G|",
    "8Ywq2ut2tnt2G|8Yz62tg2uttcG|8YwF2ut2tgtcG|8YyC2tg2tnt2G|8Yxu2tg2tnt2G|8Ywq2u_2uttcG|8Ytg2wm2tnt2",
    "G|8YwF2u_2tgtcG|8Yxu2tg2tgt2G|8YwF2u_2tgt2G|8Ywq2u_2utt2G|8Yu_2ut2tnt2G|8Yut2u_2tnt2G|8Ytg2u_2tn",
    "t2G|8Yy#2tg2tnt2G|8YyD2ut2tnt2G|8Yxu2tg2tgtcG|8YyC2u_2tgtcG|8YzM2tg2tgtcG|8Yxq2wm2tnt2G|8Ywq2u_2",
    "tnt2G|8Y[RG@pR|8Y@SO@V6#q@N5wJ1tPG|8Y[M$@V6#q@N5wJ1tPG|8Y@pWtPG|8Y@pJtPG|8Y[AKtPG|8Y[RJtPG|8Y[Ob",
    "tPG|8Y=OtPG|8Y@VTtPG|8Y@SOtPG|8Y@SP=O@VT|8Y@_P|[P71|8Y@vH*3-[OO*3-[OL|8Y[Vvv#@T)|8Y@rCv#@_O|tItH",
    "-v)|tItH-um|tItH-vo|tItH-wk|tItH-x4|tItH-y3|tItH-zP|tItH-#*|tItH-%6|tItH-+F|tItH-)]|tItH-+G|tItH",
    "-+H|tItH-+I|tItH-.M|tItH-.N|zTGhtJx0|zTGhtJuix0|zTGhtJuixhwJ|zTGhtJzY|zTGhtJ&v|zTGhtJ!nj|zTGhtJ!",
    "6j|zTGhtJctE*cuG|zTGhtJZtE*c@vn|zTGhtJt**N|XYct(|XYZt(|Xiu(ct(|Xiu(Zt(|XwHct(|XwHZt(|X@I^wH|XYct",
    "(t9|XYZt(t9|Xu(ct(t9|Xu(Zt(t9|XwHct(t9|XwHZt(t9|X@I^wHt9|Xk@0Uct(|Xk@0UZt(|zTGhtJt3tA@8H|zTGhtJ#",
    "Byc|zTGhtJxMyc|zTGhtJt_vL|zTGhtJ(bt_vL|zTGhtJcy8|zTGhtJZy8|zTGhtJcz1uG|zTGhtJZz1uG|zTGhtJc!$zhuG",
    "|zTGhtJZ!$zhuG|zTGhtJct7*cuG|zTGhtJZt7*cuG|zTGhtJciv+uG|zTGhtJZiv+uG|zTGhtJcv+uG|zTGhtJZv+uG|zTG",
    "htJcy=uG|zTGhtJZy=uG|zTGhtJctEy=uG|zTGhtJZtEy=uG|@SitA|tE@SitA|zTGhtJcluG|zTGhtJZluG|%^*x|@Iv*x|",
    "(b*x|i(b*x|%^t_vL|@Ivt_vL|(bt_vL|3x0|3uix0|3xhwJ|3&v|3zY|3!6j|3!nj|3#Byc|3cy8|3Zy8|3cz1uG|3Zz1uG",
    "|3c!$zhuG|3Z!$zhuG|3V1|3*1|3y4|3ts1|3$(-!c|3x1-uX1|3w=-uX1|3z21|3#i#4|3+Z1|3?*1|3=k!U|8+etPG|8:=",
    "2+eg|8=ptPG|8wK@.J|8?MtPG|8%ntPG|8%nvCG|8&^tPG|8&^vCG|8%rtPG|8%rvCG|8%ztPG|8%zvCG|8*]tPG|8*]vCG|",
    "80v[tPG|80t^2(EgtPG|80t^2(Egt2G|80t^2v[gtPG|80t^2v[gt2G|80yP2v[gtPG|80yP2v[gt2G|80t^2v[t9tPG|80t",
    "^2v[t9t2G|80tn2v[gtPG|80tn2v[gt2G|80tn2v[gtcG|80tn2v[gvCG|80t^tPG|80t^t2G|80yDtPG|80yDt2G|80yDtc",
    "G|80yDvCG|80xe@2#tPG|80xe@2#t2G|80xetPG|80xet2G|80xetcG|80xevCG|80#5tPG|80#5t2G|80#5tcG|80#5vCG|",
    "80u_tPG|80u_t2G|80u_tcG|80u_vCG|80uttPG|80utt2G|80uttcG|80utvCG|80wmtPG|80wmt2G|80wmtcG|80wmvCG|",
    "80#_tPG|80#_t2G|80+0tPG|80+0t2G|80y)tPG|80y)t2G|80%4tPG|80%4t2G|80xqtPG|80xqt2G|80xqtcG|80xqvCG|",
    "80yNtPG|80yNt2G|80yNtcG|80yNvCG|80zMtPG|80zMt2G|80zMtcG|80zMvCG|80zatPG|80zat2G|80zatcG|80zavCG|",
    "80yvtPG|80yvt2G|80yvtcG|80yvvCG|80%.tPG|80%.t2G|80%.tcG|80%.vCG|80yCtPG|80yCt2G|80yCtcG|80yCvCG|",
    "80!ptPG|80!pt2G|80!ptcG|80!pvCG|80y#tPG|80y#t2G|80y#tcG|80y#vCG|80z6tPG|80z6t2G|80z6tcG|80z6vCG|",
    "80xutPG|80xut2G|80xutcG|80xuvCG|80wFtPG|80wFt2G|80wFtcG|80wFvCG|80tgtPG|80tgt2G|80tgtcG|80tgvCG|",
    "80wqtPG|80wqt2G|80wqtcG|80wqvCG|80x$tPG|80x$t2G|80x$tcG|80x$vCG|80yPtPG|80yPt2G|80t^whtPG|80t^wh",
    "t2G|80tntPG|80tnt2G|80tntcG|80tnvCG|8YwF2t^2(EgtPG|8YwF2t^2(Egt2G|8YwF2t^2v[gtPG|8YwF2t^2v[gt2G|",
    "8YwF2t^2v[t9tPG|8YwF2t^2v[t9t2G|8YwF2t^tPG|8YwF2t^t2G|vV(cxo-@5!#Y|u@!nj|u@z(j|u@V1|u@+Z1|u@?*1|",
    "u@*1|u@)E|u@cy8|u@Zy8|u@y4|u@ts1|u@x0|u@$(-!c|u@xhwJ|u@#4|u@EvV|u@Et0|u@Et3|u@EtC|u@EtQ|u@EtX|u@",
    "Et=|u@EuB|u@Et?|u@EuF|u@zY|u@&v|u@x1-uX1|u@z21|u@w=-uX1|u@!6j|u@=k!U|u@750F|u@750t4|u@750tb|u@75",
    "0tV|u@750f|u@750uV|u@750u[|u@750vB|u@750t6|u@750vt|u@750v3|u@750t+|u@750uz|u@750u5|u@750t1|u@750",
    "vQ|u@750x6|u@750tu|u@750tt|u@750u]|u@750n|u@750v5|u@750v(|u@750vj|u@750u?|u@750vR|u@cluG|u@#i#4|",
    "u@ZluG|u@v.wf|u@t_vL|u@wCwf|u@730F|u@730t4|u@730tb|u@730tV|u@730f|u@730uV|u@730u[|u@730vB|u@730t",
    "6|u@730vt|u@730v3|u@730t+|u@730uz|u@730u5|u@730t1|u@730vQ|u@730x6|u@730tu|u@730tt|u@730u]|u@730n",
    "|u@730v5|u@730v(|u@730vj|u@730u?|u@730vR|u@cz1uG|u@tJvL|u@Zz1uG|u@u(|u@ctEy8|u@ZtEy8|ucuixhwJ|uc",
    "cy=uG|ucZy=uG|ucuix0|uctOtRtA|uctO0zj|uctO03F|uctO03t6|uctO03n|uctO03f|uctO03t1|uctO03uY|uctO03x",
    "J|uctO03xX|uctO03z+|uctO-u^@RP$tj|uctO0F|uctO0t6|uctO0n|uctO0f|uctO0t1|uctO0td|uctO0zS|uctO0z]|u",
    "ctO0!O|uctO0z#|uctO0up|uctO0!9|uctO0z)|uctO0!h|uctO0zV|uctO0uq|uctO0!#|uctO0z+|uctO0xv|uctO0tG|u",
    "ctO0ue|uctO0yU|uctO0zC|uctO0yT|uctO0xo|uctO0t]|uctO0yG|uctO0$m|uctO0x#|uctO0zA|uctO0ub|uctO0y]|u",
    "ctO0x]|uctO0y[|uctO0z$|uctO0uY|uctO0xJ|uctO0xX|uctO0uS|uctO0#D|uctO0!7|uctO0#X|uctO0zg|uctO0v#|u",
    "ctO0u5|uctO&N$tj|uctO@AE-&N$tj|ucU(3|ucU0y6|ucU0.2|ucU0y6-w3|ucU0y%|ucU0y%-!M|ucU0y%-y?|ucU0yW|u",
    "cU0:&|ucU0w5|ucU0w5-y6|ucU0w5-ye|ucU0w5-wV|ucU0w5-w3|ucU0w5-#(|ucU0w5-#W|ucU0w5-y?|ucU0ye|ucU0wV",
    "|ucU0:%|ucU0wV-w3|ucU0w3|ucU0(U|ucU0!s|ucU0!M|ucU0@0I|ucU0#^|ucU0$+|ucU0#(|ucU0#W|ucU0y?|ucU0F|u",
    "cU0z0|ucU0uY|ucU0)?|ucU0%k|ucU0f|ucU0&&|ucU0#o|ucU0t1|ucU0v#|ucU0@Bi|ucU0yM|ucU0xX|ucU0n|ucU0@Bn",
    "|ucU0z.|ucU0!j|ucU0xJ|ucU0#w|ucU09|ucU0t6|u@@Iu1|u@@3a1|u@wx1|u@wH|u@.eu0|u@@0m1|u@@Br1|uc@.Eu2t",
    "J|uct:Q|ucu:Q|uctlQ|ucu%Q|uct7l|uctEtx|@7t#=@HI|@7t#=!w|@7t#=[X*|[IA@R+vO|@R+vO|Wt44@HxF|Wt44@rf",
    "f|Wt44@rWt6|Wt44@r$t1|Wt44@rEn|Wt44@Hqu=|Wt44@rm#7|Wt44@Hw$0|Wt44@rI#M|Wt44@rs$1|Wt44@rywE|Wt44@",
    "rn&f|Wt44@rd(8|Wt44@r)+r|Wt44@s0td|Wt44@rl!O|Wt44@r+zS|Wt44@r=z#|Wt44@s4z]|Wt44@s3ub|Wt44@rHy[|W",
    "t44@r[y]|Wt44@rJz$|Wt44@rRx]|Wt44@Hvue|Wt44@rSyT|Wt44@rYyU|Wt44@rtxo|Wt44@rwzC|Wt44@Hstr|Wt44@r@",
    "x_|Wt44@rgxi|Wt44@rF$P|Wt44@rr&J|Wt44@rK#%|Wt44@s1@3f|Wt44@rP?^|Wt44@ra@3g|Wt44@r#uS|Wt44@rV#X|W",
    "t44@ru#D|Wt44@Hrzg|Wt44@rU!7|Wt44@rZup|Wt44@Hy!h|Wt44@ri!9|Wt44@rGzV|Wt44@rzz)|Wt44@r!uq|Wt44@Ht",
    "xv|Wt44@re!#|Wt44@HutG|Wt44@r:z+|Wt44@rvv#|Wt44@r^z.|Wt44@rh!j|Wt44@rjzj|Wt44@rLxy|Wt44@r]#a|Wt4",
    "4@rO&*|Wt44@rT@5V|Wt44@rk@jf|Wt44@s7wA|Wt44@r?@6u|Wt44@sB@(c|Wt44@rp@38|Wt44@rX[MG|Wt44@r%[MF|Wt",
    "44@r_[OD|Wt44@rb[OE|Wt44@r.[PR|Wt44@r*[XC|Wt44@s9@0b|Wt44@sCt3|Wt4B@rM|Wt4B@rN|Wt4B@rQ|Wt4B@rc|W",
    "t4B@ro|Wt4B@rq|Wt4B@rx|Wt4B@r&|Wt4B@r(|Wt4B@s2|Wt4B@s5|Wt4B@s6|Wt4B@s8|Wt4B@sA|Wt4uo@sD#U|Wt4uo@",
    "sE+D|Wt4uo@sF@6c|Wt4uo@sG@)(|Wt4uo@sH[8L|Wt4uo@sI[V9|Wt4uo@sJ@Km|Wt4uo@sK@3m|Wt4uo@sLy1-@7P|Wt4u",
    "o@sMx#-@7P|Wt4uo@sN[UC|Wt4uo@sO@IH|Wt4uo@sP=l|Wt4uo@sQ@v:|Wt4uo@sR@Bo|Wt4uo@sS@u6|Wt4uo@sT@QO|Wt",
    "4uo@sU[UV|Wt4uo@sV@#e|Wt4)n@sW[0w|Wt4)n@sX[0s|Wt4uo@sY@3D|Wt4uo@sZ@4h|Wt4uo@sa|Wt4)n@sb@qJ|Wt4)n",
    "@sc[92|Wt4uo@sd@vz|Wt4uo@se@23|Wt4uo@sf|Wt4uo@sg@Vg|Wt4uo@sh|Wt4uo@si|Wt4uo@sjzJ|Wt4uo@sk|Wt4uo@",
    "sl|Wt4uo@sm|Wt4)n@so[aM|Wt4uo@sp|Wt4uo@sq|Wt4uo@sr@65|Wt4uo@ss|Wt4uo@st|Wt4uo@su@:h|Wt4uo@sv@qQ|",
    "Wt4uo@sw|Wt4uo@sx|Wt4uo@sy|Wt4uo@sz|Wt4uo@s!|Wt4uo@s#|Wt4uo@s$|Wt4uo@s%|Wt4uo@s&|Wt4uo@s(@8v|Wt4",
    "uo@s)|Wt4uo@s*(Y|Wt4uo@s+|Wt4uo@s.|Wt4uo@s:|Wt4uo@s=|Wt4uo@s?|Wt4uo@s@|Wt4uo@s[|Wt4uo@s]|Wt4uo@s",
    "^|Wt4uo@s_|Wt4uo@t0|Wt4uo@t1@2C|Wt4uo@tM@.8|Wt4uo@tP@H&|Wt4uo@tU@TQ|Wt4uo@tVQ|Wt4uo@tW|Wt4uo@tX[",
    "WF|Wt4uo@tY|Wt4uo@tZ|Wt4uo@ta[f8=f|Wt4uo@tb=f|Wt4uo@tc=f@1[|Wt4uo@td@4g|Wt4uo@te|Wt4uo@tf|Wt4)n@",
    "tg@&d|Wt4uo@th|Wt4uo@ti|Wt4uo@tk|Wt4uo@tl|Wt4uo@tm|Wt4uo@tn@%0|Wt4uo@to|Wt4uo@tp|Wt4uo@tq|Wt4uo@",
    "tr|Wt4uo@ts|Wt4uo!C@sn|Wt4uo!C@t2|Wt4uo!C@t3|Wt4uo!C@t4|Wt4uo!C@t5|Wt4uo!C@t6|Wt4uo!C@t7|Wt4uo!C",
    "@t8|Wt4uo!C@t9|Wt4uo!C@tA|Wt4uo!C@tB|Wt4uo!C@tC|Wt4uo!C@tD|Wt4uo!C@tE|Wt4uo!C@tF|Wt4uo!C@tG|Wt4u",
    "o!C@tH|Wt4uo!C@tI|Wt4uo!C@tJ|Wt4uo!C@tK|Wt4uo!C@tL|Wt4uo!C@tN|Wt4uo!C@tO|Wt4uo!C@tQ|Wt4uo!C@tR|W",
    "t4uo!C@tS|Wt4uo!C@tT|Wt4uo!C@tj|Wt4uo!C@tt|xF#H!wvL|xF#H!wtA|xF%hj|xFVt0|xFVt3|xFVtC|xFVtQ|xFVtX",
    "|xFVt=|xFVuB|xFVt?|xFVuF|xFVvv|xFVws|xFVx)|xFVz!|xFVz8|xFV#j|xFVzN|xFV%D|xFVy&|xFVt0uE|xFVt3uE|x",
    "FVtCuE|xFVtQuE|xFVtXuE|xFVt=uE|xFVuBuE|xFVt?uE|xFVuFuE|xFVt0ux|xFVt3ux|xFVtCux|xFVtQux|xFVtXux|x",
    "FVt=ux|xFVuBux|xFVt?ux|xFVuFux|xFVvvux|xFVwsux|xFVx)ux|xFVz!ux|xFVz8ux|xFV#jux|xFVzNux|xFV%Dux|x",
    "FVy&ux|xF=A@1B&!|xF=A)a*[|xF=A&u*[|xF=A%%*[|xF=A+j*[|xF@6r+z)a*[|xF@Nt+z)a*[|xF+z&u*[|xF+z%%*[|a",
    "xY![t0yr|axY![t0t(|axY![t0@6p|axY![tX|axY![z8|axY![tXuE|axY![tXux|axY![z8ux|axY![tX.6|axY![vv.6|",
    "axY![z8.6|axY![t0uE.6|axY![tXuE.6|axY![t0ux.6|axY![tXux.6|axY![tX*=|axY![vv*=|axY![z8*=|axY![t0u",
    "E*=|axY![tXuE*=|axY![t0ux*=|axY![vvux*=|axY![z8ux*=|axY![vv@8s|axY@@nt0[LF|axY)6t0|axY@7at0|axY@",
    "6!t3|axY)6t3|axY@#gt3@J?|axY@6!t3@J?|axY:_tX|axY:_vv|axY:_vvyhG|axY@7avv|axY[96vv|axY)6vv|axY)6x",
    ")|axY:_z8|axY:_z8yhG|axY@7az8|axY)6z8|axY)6t0uE|axY)6tCuE|axY@6!tXuE|axY:_tXuE|axY)6tXuE|axY@x7t",
    "XuE|axY[C1tXuE|axY)6t0ux|axY)6tXux|axY@%vtX@8s|axY[Vcz8@8s|at0t(1|at0t(1yhG|at3))1|atC%R1|a@Vz1|",
    "a[XT1|a@6p1|a[IE1|at3@3B1|atC@3B1|atQ@3B1|atX@3B1|a[9B1|a[3I@1B1|a[4z1|a[Iy1|a[f.1|a@qa1|a@qT1|a",
    "@?J1|a[Zs@1B1|avV1|at0yr1|a[Tf1|a@^y1|[F21|xj[SI1|xj[bo1|xj[R_1|xj@Sj1|xj@&W@Sj1|xj[TZ1|xj@%x1|x",
    "j[NT1|xj[SA1|xj@(L1|xj#q1|xj@xi1|@qhB|aB$W!Q|y9x!1@Qy|y9x!1[LLz@|y9x!1[Xiz@|y9x!1@w[|y9x!1@5_|y9",
    "x!1+D|y9x!1@2C|y9x!1@:l|y9x!1[Ye|y9x!1Q|y9x!1.c|y9x!1@AM|y9x!1@1V|y9x!1[85|y9x!1[8e|y9x!1@A7|y9x",
    "!1@No|y9x!1@IN|y9x!1@Ik@RA|y9x!1@&=|y9x!1@!a|y9x!1[T%|y9x!1@!Z|y9x!1@ur|y9x!1@AN|y9x!1zJ|y9x!1@@",
    "=|y9x!1@v=#z|y9x!1%@|y9x!1@3m|y9x!1@KD|y9x!1@J=|y9x!1[aF|y9x!1.Y|y9x!1@RA(Y|y9x!1)=|y9x!1[Jt|y9x",
    "!1@A1|y9x!1[4k|y9x!1@3I%7|y9x!1@K#|y9x!1@?M|y9x!1[Vb|y9x!13@5i|y9x!1(b@t]|y9x!1X$ptM|z_0F|z_0f|z",
    "_0t4|z_0@u)|z_0u[|z_0tV|z_0t6|z_0v(|z_0vR|z_0%1|z_0vt|z_0v3|z_0x6|z_0t+|z_0uz|z_0u5|z_0@2:|z_0?q",
    "|z_0n|z_0vQ|z_0@2a|z_0tu|z_0tt|z_0u]|z_0@BS|z_0yz|z_0xM|z_0vB|z_0vj|xz0F|xz0[J2|xz0tV|xz0t+|xz0[",
    "c4|xz0tu|xz0[42|xz0@5V|xz0x6|xz0t4|xz0uz|xz0t1|xz0@$v|xz0u]|xz0+?|xz0[SO|xz0tt|xz0tb-.O|xz0n|xz0",
    "?q|xz0vj|xz0u5|xz0[Z*|xz0vQ|xz0@44|xz0t6|xz0f|xz0[c7|xz0v3|xz0[0Y|xz0[CW|xz0wL|xz0u[|xz0@:S|xz0@",
    "Ao|xz0[V4|xz0#$|xz0v]|xz0tb-@5J|xz0@BS|xz0[c5|xz0ys|xz0@8d|xz0[8k|xz0[8l|xz0[8m|xz0[43|xz0&a|xz0",
    "[c6|to!N+3j|to!NEt0|to!NEt3|to!NEtC|to!NEtQ|to!NEtX|to!NEt=|to!NEuB|to!NEt?|to!NEuF|to!NVvv|to!N",
    "Vws|to!NVx)|to!NVz!|to!NVz8|to!NV#j|to!NVzN|to!NV%D|to!NVy&|to!NVt0uE|to!NVt3uE|to!NVtCuE|to!NVt",
    "QuE|to!NVtXuE|to!NVt=uE|to!NVuBuE|to!NVt?uE|to!NVuFuE|em0F|em0%8|em0!O|em0#7|em0f|em0$x|em0#a|em",
    "0x#|em0yO|em0t6|em0td|em0#9|em0#B|em0xM|em0$2|em0t1|em0x_|em0y1|em0z]|em0%G|em0%H|em0xv|em0n|em0",
    "@)X|em0@9j|em0@7_|em0(s|em0@)*|em0!]|em0v]|em0wL|em0@)=|emw4t0|emw4tX|emw4vv|emw4z8|em0#o|em0@P(",
    "%(|em0@TN%(|!X0@p7|!X0@t:|!X0@=q|!X0@$&|!X0@pA|!X0[M#|!X0@_F|!X0@?]|!X0[YL|!X0@)T|!X0[2?|!X0[3t|",
    "!X0[89|!X0[B_|!X0@_W|!X0[b?|!X0[JG|!X0y&|!X0[OR|!X0[Rh|!X0[Xx|!X0[fH|!X0@+F|!X0@^X|!X0@M6|!X0[Ir",
    "|!X0uFuE|eyV0yz|eyV0)K|eyV0@:W|eyV0@J)|eyV0f|eyV0[io|eyV0@(g|eyV0@4u|eyV0@(h|eyV0t6|eyV0[2M|eyV0",
    "[4C|eyV0[8_|eyV0@PY|eyV0[d^|eyV0[KA|eyV0[Ou|eyV0@0F|eyV0t5|eyV0n|eyV0@y5|eyV0[S$|eyV0[Sf|eyV0[hZ",
    "|eyV0(f|eyV0t1|eyV0x.|eyV0(s|eyV0t]|eyV0[Z$|eyV0[dZ|eyV0@0n|eyV0@4n|eyV0)@|eyV0$n|eyV0xJ|eyV0uY|",
    "eyV0@2H|XeyV0yz|XeyV0@J)|XeyV0@4u|XeyV0@PY|XeyV0@0F|zt0@pY|zt0#[|zt0@:b|zt0ww|zt0#v|zt0zA|zt0zj|",
    "zt0&P|zt0@]K|zt0.D|zt0)D|zt0xu|zt0zU|zt0%s|zt0#h|zt0@%]|zt0xB|zt0&+|zt0[RO|zt0yC|zt0&J|zt0@SL|zt",
    "0[NI|zt0[Oa|zt0[Y6|zt0!p|zt0tG|zt0t6|zt0n|zt0@An|zt#H.s|exd1F|exd1t6|exd1n|exd1td|exd1z]|exd1v0|",
    "exd1$j|exd1%a|exd1wM|exd1wE|exd1*Z|exd1uq|exd1z+|exd1u=|exd1$0|exd1$1|exd1x3|exd1tr|exd1vS|exd1y",
    "d|exd1ue|exd1zC|exd1ub|exd1y]|exd1x]|exd1uY|exd1xU|exd1):|exd1uS|exd1!7|exd1uw|exd1up|exd1xy|exd",
    "1wI|exd1yt|exd1t]|exd1@Hj|exd1@Hj-um|exd1@q@|exd1[gA|exd1@JM|exd1@JM-um|exd1@t#|exd1@wC|exd#H.s|",
    "exdVt0|exdVt3|exdVvv|exdVws|exdVuE|v?50ugt6|v?50ugf|v?50ugF|v?50ug&R|v?50ugt1|v?50ugx.|v?50v:t6|",
    "v?50v:f|v?50v:F|v?50v:&R|v?50v:t1|v?50v:x.|v?50&S|v?50?!|v?50(e|v?50=E|v?50vB|v?50)q|v?50.Y|v?50",
    ":?|v?50.p|v?50@1P|v?50:B|v?50@7@|v?50@LA|v?50(s|v?50+9|v?50*P|v?50@0R|v?50%H|v?50@0q|v?50$2|v?50",
    "@4w|v?50%G|v?50#9|v?50#B|v?50xM|v?50&b|v?50?w|v?50@6)|v?30ugt6|v?30ugf|v?30ugF|v?30ug&R|v?30ugt1",
    "|v?30ugx.|v?30v:t6|v?30v:f|v?30v:F|v?30v:&R|v?30v:t1|v?30v:x.|v?30&S|v?30?!|v?30(e|v?30=E|v?30vB",
    "|v?30)q|v?30.Y|v?30:?|v?30.p|v?30@1P|v?30:B|v?30@7@|v?30@LA|v?30(s|v?30+9|v?30*P|v?30@0R|v?30%H|",
    "v?30@0q|v?30$2|v?30@4w|v?30%G|v?30#9|v?30#B|v?30xM|v?30&b|v?30?w|v?30@6)|x:0[KD|x:0@UU|x:0[1u|x:",
    "0+g|x:0[YH|x:0zV|x:0[W0|x:0@I)|x:0[g^|x:0@]X|x:0@u[|x:0@%a|x:0@:V|x:0[e1|x:0[YE|x:0@WC|x:0+z|x:0",
    "[01|x:0[fM|x:0t]-t]|x:0[4]|x:0[9]|x:0@^V|x:0@KJ|x:0xK|x:0@ox|x:0wi|x:0@Vg|x:0$5|x:0&R|x:0[PT|x:0",
    "xB|x:0.x|x:0@o_|x:0*W|x:0tj|x:0[I6|x:0[Ig|x:0@3D|x:0@r7|x:0@qI|x:0vM|x:0.Q|x:0@1%|x:0@qV|x:0+b|x",
    ":0@MD|x:0[hA|yq0t^|yq0vS|yq0uq|yq0wE|yq0%a|yq0ww|yq0@%j|yq0uS|yq0up|yq0[St|yq0x+|yq0@Ip|yq0v0|yq",
    "0yd|yq0@9&|yq0@Mn|yq0[3f|yq0[9)|yq0[GT|yq0yP|yq0t]|yq0uY|yq0F|yq0f|yq0t6|yq0t1|yq0n|yq0ve|yq0yX|",
    "yq0x.|yqEvV|yqEt0|yqEt3|yqEtC|yqEtQ|yqEtX|yqEt=|yqEuB|yqEt?|yqEuF|wU50F|wU50v*|wU50yC|wU50&R|wU5",
    "0@IR|wU50wt|wU50@KL|wU50f|wU50@KR|wU50t]|wU50@MA|wU50t6|wU50td|wU50@KM|wU50@8B|wU50uw|wU50ub|wU5",
    "0ue|wU50t1|wU50@QK|wU50tr|wU50@KN|wU50up|wU50wI|wU50uq|wU50@KO|wU50z*|wU50@KP|wU50%Y|wU50x+|wU50",
    "n|wU50v#|wU50ww|wU50x[|wU50xy|wU50#b|wU30F|wU30v*|wU30yC|wU30&R|wU30@IR|wU30wt|wU30@KL|wU30f|wU3",
    "0@KR|wU30t]|wU30@MA|wU30t6|wU30td|wU30@KM|wU30@8B|wU30uw|wU30ub|wU30ue|wU30t1|wU30@QK|wU30tr|wU3",
    "0@KN|wU30up|wU30wI|wU30uq|wU30@KO|wU30z*|wU30@KP|wU30%Y|wU30x+|wU30n|wU30v#|wU30ww|wU30x[|wU30xy",
    "|wU30#b|yn0F|yn0%8|yn0)L|yn0!]|yn0#7|yn0@2_|yn0=q|yn0)U|yn0f|yn0&d|yn0(!|yn0@7N|yn0x#|yn0t6|yn0&",
    "f|yn0!O|yn0x%|yn0[4&|yn0y[|yn0yT|yn0ue|yn0*r|yn0t1|yn0x_|yn0@3f|yn0#X|yn0@SD|yn0!h|yn0y1|yn0xv|y",
    "n0yO|yn0n|yn0$x|yn0=C|yn0u?|yn0#a|yn0%5|yn0$I|yn0@=W|yn0@7_|xbxZ0@pa|xbxZ0.a|xbxZ0@7M|xbxZ0@JU|x",
    "bxZ0@6w|xbxZ0[iR|xbxZ0@Kn|xbxZ0[in|xbxZ0[Xf|xbxZ0wt|xbxZ0[hU|xbxZ0#b|xbxZ0@_4|xbxZ0wI|xbxZ0@NQ|x",
    "bxZ0@^_|xbxZ0[f:|xbxZ0@(d|xbxZ0*C|xbxZ0@_f|xbxZ0[0y|xbxZ0[5Y|xbxZ0@@u|xbxZ0[M*|xbxZ0@q0|xbxZ0@yY",
    "|xbxZ0!m|xbxZ0@#b|xbxZ0@On|xbxZ0?]|xbxZ0[FC|xbxZ0@(i|xbxZ0[SQ|xbxZ0@_U|xbxZ0wi|xbxZ0[ac|xbxZ0@+L",
    "|xbxZ0@(f|xbxZ0@I!|xbxZ0:k|xbxZ0@=i|xbxZ0@3n|xbxZ0[SK|xbxZ0[dk|xbxZ0[Y!|xbxZ0@S!|xbxZ0@_H|xbxZ0@",
    "#a|xbxZ0@Ip|xbxZ0[g[|xbxZ0@9m|xbxZ0[1]|xbxZ@y#j|we50F|we50=X|we50%8|we50)L|we50!]|we50#7|we50=q|",
    "we50)U|we50f|we50&d|we50v0|we50t]|we50)f|we50t6|we50@MJ|we50&f|we50td|we50uw|we50!Y|we50y[|we50y",
    "T|we50*r|we50t1|we50x_|we50#%|we50#X|we50!h|we50y1|we50xv|we50yO|we50n|we50$x|we50=C|we50u?|we50",
    "#a|we30F|we30=X|we30%8|we30)L|we30!]|we30#7|we30=q|we30)U|we30f|we30&d|we30v0|we30t]|we30)f|we30",
    "t6|we30@MJ|we30&f|we30td|we30uw|we30!Y|we30y[|we30yT|we30*r|we30t1|we30x_|we30#%|we30#X|we30!h|w",
    "e30y1|we30xv|we30yO|we30n|we30$x|we30=C|we30u?|we30#a|WF1@nf|WF1@ng|WF1@nh|WF1@ni|WF1@nj|WF1@nk|",
    "WF1@nl|WF1@nm|WF1@nn|WF1@no|WF1@np|WF1@nq|WF1@nr|WF1@ns|WF1@nt|WF1@nu|WF1@nv|WF1@nw|WF1@nx|WF1@n",
    "y|WF1@nz|WF1@n!|WF1@n#|WF1@n$|WF1@n%|WF1@n&|WF1@n(|WF1@gA|WF1@n)|WF1@n*|WF1@n+|WF1@n.|WF1@n:|WF1",
    "@n=|WF1@n?|WF1@n@|WF1@n[|WF1@n]|WF1@n^|WF1@n_|WF1@o0|WF1@o1|WF1@o2|WF1@o3|WF1@o4|WF1@o5|WF1@o6|W",
    "F1@o7|WF1@o8|WF1@o9|WF1@oA|WF1@oB|WF1@oC|WF1@oD|WF1@oE|WF1@oF|WF1@oG|WF1@oH|WF1@oI|WF1@oJ|WF1@oK",
    "|WF1@oL|WF1@oM|WF1@oN|WF1@oO|WF1@oP|WF1@oQ|WF1@oR|WF1@oS|WF1@oT|WF1@oU|WF1@FY-@4#|WF1@oV|WF1@oW|",
    "WF1@h7|WF1@oX|WF1@oY|WF1@oZ|WF1@oa|WF1@hK|WF1@ob|WF1@oc|WF1@od|WF1@oe|WF1@of|WF1@FZ|WF1@Fa|WF1@F",
    "b|WF1@Fc|WF1@Fd|WF1@Fe|WF1@Ff|WF1@Fg|WF1@Fh|WF1@ji|WF1@jj|WF1@Fi|WF1@Fj|WF1@Fk|WF1@jl|WF1@jm|WF1",
    "@jn|WF1@Fl|WF1@Fm|WF1@Fn|WF1@Fo|WF1@Fp|WF1@Fq|WF1@Fr|WF1@Fs|WF1@Ft|WF1@Fu|WF1@Fv|WF1@Fw|WF1@Fx|W",
    "F1@Fy|WF1@Fz|WF1@F!|WF1@F#|WF1@F$|WF1@jp|WF1@F%|WF1@F&|WF1@F(|WF1@F)|WF1@F*|WF1@F+|WF1@F.|WF1@F:",
    "|WF1@F=|WF1@F?|WF1@F@|WF1@F[|WF1@F]|WF1@F^|WF1@F_|WF1@G0|WF1@G1|WF1@G2|WF1@G3|WF1@G4|WF1@G5|WF1@",
    "G6|WF1@G7|WF1@G8|WF1@G9|WF1@GA|WF1@GB|WF1@GC|WF1@GD|WF1@GE|WF1@GF|WF1@GG|WF1@GH|WF1@GI|WF1@GJ|WF",
    "1@GK|WF1@GL|WF1@GM|WF1@GN|WF1@GO-$A|WF1@GP-$A|WF1@GQ-$A|WF1@GR-$A|WF1@GS-$A|WF1@GT-$A|WF1@GU-$A|",
    "WF1@GV-$A|WF1@GW-$A|WF1@GX-$A|WF1@GY-$A|WF1@GZ-$A|WF1@Ga-$A|WF1@Gb-$A|WF1@Gc-$A|WF1@Gd-$A|WF1@Ge",
    "-$A|WF1@Gf-$A|WF1@Gg-$A|WF1@Gh|WF1@Gi|WF1@Gj|WF1@Gk|WF1@Gl|WF1@Gm|WF1@Gn|WF1@Go|WF1@Gp|WF1@Gq|WF",
    "1@Gr|WF1@Gs|WF1@Gt|WF1@Gu|WF1@Gv|WF1@Gw|WF1@Gx|WF1@Gy|WF1@Gz|WF1@G!|WF1@G#|WF1@G$|WF1@G%|WF1@G&|",
    "WF1@lL|WF1@lM|WF1@lN|WF1@lO|WF1@lP|WF1@lQ|WF1@lR|WF1@lS|WF1@lT|WF1@lU|WF1@lV|WF1@lW|WF1@lX|WF1@l",
    "Y|WF1@lZ|WF1@la|WF1@lb|WF1@lc|WF1@ld|WF1@le|WF1@lf|WF1@lg|WF1@lh|WF1@li|WF1@lj|WF1@lk|WF1@ll|WF1",
    "@lm|WF1@ln|WF1@lo|WF1@lp|WF1@lq|WF1@lr|WF1@ls|WF1@lt|WF1@lu|WF1@lv|WF1@lw|WF1@lx|WF1@ly|WF1@lz|W",
    "F1@l!|WF1@l#|WF1@l$|WF1@l%|WF1@l&|WF1@l(|WF1@l)|WF1@l*|WF1@l+|WF1@l.|WF1@l:|WF1@l=|WF1@l?|WF1@l@",
    "|WF1@l[|WF1@l]|WF1@l^|WF1@l_|WF1@m0|WF1@m1|WF1@m2|WF1@m3|WF1@m4|WF1@m5|WF1@m6|WF1@m7|WF1@m8|WF1@",
    "m9|WF1@mA|WF1@mB|WF1@mC|WF1@mD|WF1@mE|WF1@mF|WF1@mG|WF1@mH|WF1@mI|WF1@mJ|WF1@mK|WF1@mL|WF1@mM|WF",
    "1@mN|WF1@mO|WF1@mP|WF1@mQ|WF1@mR|WF1@mS|WF1@mT|WF1@mU|WF1@mV|WF1@mW|WF1@mX|WF1@mY|WF1@mZ|WF1@ma|",
    "WF1@mb|WF1@mc|WF1@md|WF1@me|WF1@mf|WF1@mg|WF1@mh|WF1@mi|WF1@mj|WF1@mk|WF1@ml|WF1@mm|WF1@mnF|WF1@",
    "mot4|WF1@mptV|WF1@mqf|WF1@mruV|WF1@msvB|WF1@mtvt|WF1@muv3|WF1=Lt+|WF1=L-um[3Z|WF1=L-vo[3a|WF1=L-",
    "wk[3b|WF1=L-y3[3c|WF1@mvv(|WF1@mwvj|WF1@mxu?|WF1@mywO|WF1@mz@oi|WF1@m!@uG|WF1@m#@%7|WF1@m$@*L|WF",
    "1@m%&f|WF1@m&|WF1@m(|WF1@m)|WF1@m*|WF1@m+|WF1@m.|WF1@m:|WF1@m=|t8035ve|t80!S#ZzY|t80!St(#ZzY|t80",
    "3z0|t8035t4|t803t42tW|t803(rzl|t803(rzl2yatW|t803(rzl2#L|t803@1hzl|t803tV2wK|t803tV2tW|t803tV2tW",
    "PwK|t803vcf|t803y5vcujf|t803@6@zl|t803@RtzJ|t8035u[|t803u[2tW|t8035u[2tW|t803vB2tM|t8035vB|t803?",
    "42tW|t803#evt2tMPtW|t803@N&zl|t803@N[zl|t803t+2&:|t8035t+2&:|t803t+2yatWP&:|t803@2t|t803@2t2yatW",
    "|t803ulu?|t803ulu?2&:|t803t12tM|t8035yM|t803y5wO|t803x6|t803ultu2ug#z|t803ultu2ug#zPyatW|t803tu2",
    "wK|t803tu2*R|t8035tu|t803@T^zl2#L|t803@4Pzl|t803@4Pzl2yatW|t803@4Dzl|t803u]2yatW|t803v52ZtW|t803",
    "5u?|t80z9wJ2tM|t80vcz9wJ2tM|t80@5v&@|t80@6e&@|t80@NW&@|t80@HG&@|t80ya&@2yatW|t803tt2#L|xS4F|xS4f",
    "|xS4t6|xS4t1|xS4n|xS4wE|xS4(8|xS4td|xS4!O|xS4zS|xS4z#|xS4z]|xS4uw|xS4x%|xS4w!|xS4#!|xS4!u|xS4ub|",
    "xS4y[|xS4y]|xS4z$|xS4x]|xS4ue|xS4yT|xS4yU|xS4xo|xS4zC|xS4tr|xS4x_|xS4xi|xS4$P|xS4&J|xS4uS|xS4#X|",
    "xS4#D|xS4zg|xS4!7|xS4up|xS4!h|xS4!9|xS4zV|xS4z)|xS4uq|xS4xv|xS4!#|xS4tG|xS4z+|xS4v#|xS4z.|xS4!j|",
    "xS4zj|xS4%a|xS4=C|xS4xy|xS4&*|zpzk0$Z|zpzk0$d|zpzk0$i|zpzk0%[|zpzk0x#|zpzk0yP|zpzk0%c|zpzk0$&|zp",
    "zk0(X|zpzk0%3|zpzk0$*|zpzk0%M|zpzk0#h|zpzk0xB|zpzk0$?|zpzk0$c|zpzk0x_|zpzk0$=|zpzk0(]|zpzk0$R|zp",
    "zk0zU|zpzk0$u|zpzky*1|zpzkVt0|zpzkVt3|zpzkVtC|zpzkVvv|zpzkVws|zpzkVt0uE|zpzkVt0ux|zpzkVvvux|zf0$",
    "Z|zf0$d|zf0$i|zf0%[|zf0x#|zf0yP|zf0%c|zf0$&|zf0(X|zf0%3|zf0$*|zf0%M|zf0#h|zf0t2xB|zf0xB|zf0$?|zf",
    "0$c|zf0x_|zf0$=|zf0(]|zf0$R|zf0zU|zf0$u|zfc-t[@70|zfZ-t[@70|zfVt0|zfVt3|zfVtC|zfVtQ|zfVtX|zfVvv|",
    "zfVws|yp0t2$Z|yp0$Z|yp0t2$d|yp0$d|yp0$i|yp0%[|yp0t2x#|yp0x#|yp0yP|yp0%c|yp0$&|yp0(X|yp0t2%3|yp0%",
    "3|yp0t2$*|yp0$*|yp0t2%M|yp0%M|yp0t2#h|yp0#h|yp0t2xB|yp0xB|yp0$?|yp0$c|yp0x_|yp0$=|yp0(]|yp0$R|yp",
    "0t2zU|yp0zU|yp0$u|ypVt0|ypVt3|ypVtC|ypVtQ|yp@#GVtQ|ypVtX|ypVvv|ypVws|ypVt0uE|!q0$Z|!q0$d|!q0$i|!",
    "q0%[-$R|!q0x#|!q0yP|!q0@W3|!q0$&|!q0(X|!q0%3|!q0$*|!q0%M|!q0#h|!q0xB|!q0$?|!q0@Ho|!q0x_|!q0$=|!q",
    "0(]|!q0zU|!q0$u|!qVt0|!qVtX|!qVvv|!qVws|!qVt0uE|!40@pS|!40.a|!40@:a|!40@%w|!40x#|!40@Bj|!40[iL|!",
    "40@L!|!40.D|!40)D|!40xu|!40[3$|!40#h|!40xB|!40[R^|!40yC|!40x_|!40@SL|!40@9(|!40[Pg|!40zU|!40$W|!",
    "4Vt0|!4Vvv|!4Vws|!4Vt0uE|!4Vt3|!4VtC|!4#H!w|!b0F|!b0t4|!b0u[|!b0tV|!b0f|!b0v5|!b0t6|!b0u?|!b0v3|",
    "!b0t+|!b0uz|!b0u5|!b0t1|!b0tu|!b0@44|!b0u]|!b0n|!b0uV|!b0x6|!b0tt|!b0@BS|!b0yz|!b0xM|!b0@8V|!b0?",
    "q|!b0tb|!b#Zj|udzd0F|udzd0f|udzd0t6|udzd0t1|udzd0uY|udzd0v#|udzd0vS|udzd0vS-um|udzd0tr|udzd0ub|u",
    "dzd0ue|udzd0ue-um|udzd0yT|udzd0yT-um|udzd0uS|udzd0uS-um|udzd0uw|udzd0ww|udzd0)f|udzd0up|udzd0up-",
    "um|udzd0!h|udzd0td|udzd0#%|udzd0uq|udzd0uq-um|udzd0xv|udzd0xv-um|udzd0tG|udzd0u=|udzdB@VG|udzdB@",
    "VG-um|udva0F|udva0f|udva0t6|udva0t1|udva0uY|udva0v#|udva0vS|udva0tr|udva0ub|udva0ue|udva0yT|udva",
    "0uS|udva0uw|udva0ww|udva0)f|udva0up|udva0yiup|udva0!h|udva0td|udva0#%|udva0uq|udva0xv|udva0tG|ud",
    "va0u=|udvavA&1)8|udvavAt0t(|udva*g[PQ|udva*g@^n|udvaVt0|udvaVt3|udvaVtC|udvaVtQ|udvaVtX|udvaVt=|",
    "udvaVuB|udvaVt?|udvaVuF|udvaVvv|udvaVws|udvaVx)|udvaVz!|udvaVz8|udvaV#j|udvaVzN|udvaVt0uE|udvaVt",
    "3uE|udvaVtCuE|udvaVtQuE|udvaVtXuE|udvaVt=uE|udvaVuBuE|udvaVt?uE|udvaVuFuE|udvaVt0ux|udvaVt3ux|ud",
    "vaVtCux|udvaVtQux|udvaVtXux|udvaVt=ux|udvaVuBux|udvaVt?ux|udvaVuFux|udvaVvvux|udvaVwsux|udvaVx)u",
    "x|udvaVz!ux|udvaVz8ux|udvaV#jux|udvaVzNux|udvaV%Dux|udvaVy&ux|udvaVt0uEux|udvaVt3uEux|udvaVtCuEu",
    "x|udvaVtQuEux|udvaVtXuEux|udvaVt=uEux|udvaVuBuEux|udvaVt?uEux|udvaVuFuEux|udvavAt0[aW|udvavAt3)8",
    "|udvavAtC)8|udvavAtQ)8|udvavAtX)8|udvavAt=)8|udvavAuB)8|udvavAt?)8|udvavAuF)8|udvavAvv)8|wn0F|wn",
    "H1t6|wnH1n|wnH1u3tu|wnH1f|wnH1t1|wnH#Sj|wn1iukt9|wn1xa|wn1y.|wn0td|wn0ww|wn0v0|wn0x[|wn0wM|wn0wt",
    "|wn0wE|wn0wy|wn0xr|wn0yb|wn0xs|wn0yk|wn0yI|wn0uq|wn0x3|wn0u=|wn0x+|wn0ue|wn0tr|wn0xT|wn0vS|wn0yK",
    "|wn0ub|wn0uY|wn0uS|wn0uw|wn0xU|wn0wI|wn0yt|wn0up|wn0xy|wn0t]|wn0@82|wn0[a2|wn0@Uy|wn0[dm|wn1u0g|",
    "wn1@xA|wn1tAt9|wnyg|wnEt0|wnEt3|wnEtC|wnEtQ|wnVvv|wnVws|wnVt0uE|wnVt0ux|wnvAt0t(|wnv1tA|wnv13tx|",
    "wnv1tx|wnv1.mu0|wnv1[87|wnv1@2z|wnv1zz|wnv1izz|wnv1@8O|evUw&0x#|evUw&0%M|evUw&0$&|evUw&0#h|evUw&",
    "0(]|evUw&0yP|evUw&0zU|evUw&0$R|evUw&0$d|evUw&0$u|evUw&0@A6|evUw&0$*|evUw&0xB|evUw&0[1d|evUw&0$=|",
    "evUw&0$?|evUw&0&d|evUw&0t^|evUw&0@Ho|evUw&0@%[|evUw&0$i|evUw&0%[|evUw&0@=Z|evUw&0(X|evUw&0@W3|ev",
    "Uw&0@%_|evUw&0%3|evUw&0[Y8|evUw&0[YD|evUw&Vt0|evUw&Vz8|evUw&u!zR|eu+w&0x$|eu+w&0wF|eu+w&0ut|eu+w",
    "&0tg|eu+w&0z6|eu+w&0yP|eu+w&0%H-um|eu+w&0y)|eu+w&0yD|eu+w&0xe|eu+w&0%H-v)|eu+w&0xu|eu+w&0wq|eu+w",
    "&0wm|eu+w&0zM|eu+w&0%H-vo|eu+w&0y#|eu+w&0t^|eu+w&0yC|eu+w&0za|eu+w&0@:$|eu+w&0#_|eu+w&0!p|eu+w&0",
    "yv|eu+w&0%4|eu+w&0+0|eu+w&0tn|eu+w&0#5|eu+w&0%.|eu+w&Vt0|eu+w&Vvv|eu+w&Vws|xm0$Z|xm0$d|xm0@I0|xm",
    "0$i|xm0@=k|xm0%[|xm0x#|xm0yP|xm1!T|xm0%c|xm0[ij|xm0@_T|xm0@_d|xm0$&|xm0(X|xm0%3|xm0$*|xm0[f(|xm0",
    "@M:|xm0%M|xm0@&0|xm0[Y5|xm0#h|xm0xB|xm0$?|xm0$c|xm0@nd|xm0x_|xm0&d|xm0$=|xm0(]|xm0[g6|xm0[N0|xm0",
    "$R|xm0zU|xm0[U%|xm0$u|xm#.jg|xm#.jt9|xmVt0|xmVtX|xmVvv|xmVws|xmVt0uE|xmv1x8|xmv1@70|xmv1itA.JtA|",
    "xmv1tA.JtA|xmv1tA|xmv1t3p|xmv1vL(3|xR0F|xR0ve|xR0@10|xR0@nY|xR0yz|xR0@G)|xR0z0|xR0@G^|xR0f|xR0yX",
    "|xR0t1|xR0x.|xR0t6|xR0v]|xR0n|xR0wL|xR0!O|xR0=C|xR0@Vp|xR0[gE|xR0(!|xR0@7J|xR0$I|xR0)L|xR0&f|xR0",
    "xv|xR0yO|xR0#7|xR0=q|xR0@0X|xR0x_|xR0&d|xR0%8|xR0@1D|xR0@Pe|xR0[Dy|xR0[Dx|xR0yT|xR0@9G|xR0[E)|xR",
    "0y[|xR0@[d|xR0[hq|xR0#o|xR0$x|xR0#X|xR0x%|xR0!h|xR0#a|xR0y1|xR0%5|xR0[TJ|xR0[U$|xR0x#|xR#.j|@0Tt",
    "3puRt0tAv1|3t3puRt0tAv1|vTt3puRt0tAv1|vTt0tAuRt3pv1|vTt3@S2uRt0ukv1|vTt0ukuRt3@S2v1|xHz&0$Z|xHz&",
    "0$d|xHz&0$i|xHz&0%[|xHz&0x#|xHz&0yP|xHz&0%c|xHz&0$&|xHz&0(X|xHz&0%3|xHz&0$*|xHz&0%M|xHz&0#h|xHz&",
    "0xB|xHz&0$?|xHz&0$c|xHz&0x_|xHz&0$=|xHz&0(]|xHz&0$R|xHz&0zU|xHz&0$u|xHz&Vt0|xHz&Vt3|xHz&VtC|xHz&",
    "VtQ|xHz&Vvv|xHz&Vws|xHz&Vt0uE|xHz&Vt0ux|xHxP0$Z|xHxP0$d|xHxP0$i|xHxP0%[|xHxP0x#|xHxP0yP-$c-$R|xH",
    "xP0%c|xHxP0$&|xHxP0(X|xHxP0%3|xHxP0$*|xHxP0%M|xHxP0#h-(]|xHxP0xB|xHxP0$?|xHxP0x_|xHxP0$=|xHxP0zU",
    "|xHxP0$u|xHxPVt0|xHxPVt3|xHxPVtC|xHxPVtQ|xHxPVvv|xHxPVws|xHxPVt0uE|xHxPVt0ux|!5xP0$Z|!5xP0$d|!5x",
    "P0$i|!5xP0%[|!5xP0x#|!5xP0yP-$c-$R|!5xP0%c|!5xP0$&|!5xP0%3|!5xP0$*|!5xP0%M|!5xP0#h-(]|!5xP0xB|!5",
    "xP0$?|!5xP0x_|!5xP0$=|!5xP0zU|!5xP0$u|!5xPy*j|!5xPuly*j|!5xPtQp2xg|!5xPtQp2tA|!5xPVt0|!5xPVt3|!5",
    "xPVtC|!5xPVtQ|!5xPVvv|!5xPVws|!5xPVt0uE|ewP0yZF|ewP0zvF|ewP0zvz0|ewP0yZt6|ewP0zvt6|ewP0zvf|ewP0y",
    "Zt1|ewP0yZyM|ewP0zvyM|ewP0yZ#c|ewP0zv#c|ewP0yZ@G[|ewP0zv@G[|ewP0yZ@0[|ewP0zv@0[|ewP0yZ@G_|ewP0zv",
    "@G_|ewP0yZ+K|ewP0zv+K|ewP0yZ@o!|ewP0yZ=$|ewP0zv=$|ewP0yZ&S|ewP0zv&S|ewP0yZ@H3|ewP0zv@H3|ewP0yZ@H",
    "0|ewP0zv@H0|ewP0yZ@QJ|ewP0zv@QJ|ewP0yZ#:|ewP0zv#:|ewP0yZ@o$|ewP0yZ@)g|ewP0yZ#B|ewP0yZyz|ewP0yZ.P",
    "|ewP0zv.P|ewP0yZ.!|ewP0zv.!|ewP0yZ@1#|ewP0zv@1#|ewP0yZ.#|ewP0zv.#|ewP0zv%:|ewP0yZ&b|ewP0zv@o%|ew",
    "P0yZ@1$|ewP0yZ@9O|ewP0yZ@7l|ewP0yZ=y|ewP0zv=y|ewP0yZ=T|ewP0zv=T|ewP0yZ@7w|ewP0zv@7w|ewP0yZ@9Q|ew",
    "P0zv@9Q|ewP0yZ*3|ewP0zv*3|ewP0yZ@o&|ewP0yZ#q|ewP0yZ@o)|ewP0yZxK|ewP0zvxK|ewP0yZ$2|ewP0zv$2|ewP0y",
    "Z!U|ewP0zv!U|ewP0yZ@H2|ewP0zv@H2|ewP0yZ@3G|ewP0yZ@uA|eu$50F|eu$50ve|eu$50@6w|eu$50@HH|eu$50=y|eu",
    "$50@1#|eu$50@KG|eu$50@KH|eu$50P|eu$50f|eu$50@64f|eu$50yX|eu$50(s|eu$50@KI|eu$50@KK|eu$50(t|eu$50",
    "t6|eu$50v]|eu$50@KS|eu$50.z|eu$50.S|eu$50@V1|eu$50#9|eu$50@KU|eu$50#B|eu$50xM|eu$50.#|eu$50t1|eu",
    "$50x.|eu$50@33yM|eu$50@3syM|eu$50@QI|eu$50@1$|eu$50@KW|eu$50%G|eu$50v:%G|eu$50%H|eu$50@Ki|eu$50&",
    "2|eu$50.!|eu$50@Kk|eu$50.y|eu$50n|eu$50wL|eu$50@33#G|eu$50@3s#G|eu$50@6&|eu$50=$|eu$50@Ko|eu$50.",
    "!-%!1|eu$50@4Z|eu$30F|eu$30ve|eu$30@6w|eu$30@HH|eu$30=y|eu$30@1#|eu$30@KG|eu$30@KH|eu$30P|eu$30f",
    "|eu$30@64f|eu$30yX|eu$30(s|eu$30@KI|eu$30@KK|eu$30(t|eu$30t6|eu$30v]|eu$30@KS|eu$30.z|eu$30.S|eu",
    "$30@V1|eu$30#9|eu$30@KU|eu$30#B|eu$30xM|eu$30.#|eu$30t1|eu$30x.|eu$30@33yM|eu$30@3syM|eu$30@QI|e",
    "u$30@1$|eu$30@KW|eu$30%G|eu$30v:%G|eu$30%H|eu$30@Ki|eu$30&2|eu$30.!|eu$30@Kk|eu$30.y|eu$30n|eu$3",
    "0wL|eu$30@33#G|eu$30@3s#G|eu$30@6&|eu$30=$|eu$30@Ko|eu$30.!-%!1|eu$30@4Z|eu$Vt0|eu$VtX|eu$Vvv|eu",
    "$Vz8|eu$Vt0uE|eu$Vt0ux|xtxp0F|xtxp0vS|xtxp0tr|xtxp0uq|xtxp0xr|xtxp0wE|xtxp0wM|xtxp0t]|xtxp0ww|xt",
    "xp0yd|xtxp0u=|xtxp0xs|xtxp0uS|xtxp0#&|xtxp0xy|xtxp0up|xtxp0wI|xtxp0td|xtxp0v0|xtxp0uw|xtxp0ub|xt",
    "xp0ue|xtxp0v#|xtxp0@M[v#|xtxp0uY|xtxp0@M[uY|xtxp0w9|xtxp0wy|xtxp0xU|xtxpHF|xtxpHt6|xtxpHn|xtxpHf",
    "|xtxpHt1|xtxpj[RC|xtxpjue[1i|xtxp1@@I|xtxp1[XM|xtxp1[XW|xtxp1[Xh|xtxpEvV|xtxpEt0|xtxpEt3|xtxpEtC",
    "|xtxpEtQ|xtxpEtX|xtxpEt=|xtxpEuB|xtxpEt?|xtxpEuF|zqEt0|zqEt3|zqEtC|zqEtQ|zqEtX|zqEt=|zqEuB|zqEt?",
    "|zqEuF|zqVvv|zqVws|zqVx)|zqVz!|zqVz8|zqV#j|zqVzN|zqV%D|zqVy&|zqVt0uE|zqVt3uE|zqVtCuE|zqVtQuE|zqV",
    "tXuE|zqVt=uE|zqVuBuE|zqVt?uE|zqVuFuE|zqvAt0t(|zqvAt0yr|zqvAt0%%|zqvAt3))|y20@)f|y20%8|y20x_|y20@",
    "9j|y20yO|y20!h|y20$#|y20@yE|y20@yA|y20)f|y20%a|y20#_|y20@4t|y20uS|y20)x|y20xy|y20wE|y20@3?|y20zU",
    "|y20zM|y20za|y20uq|y20#a|y20@Kn|y20[f?|y20yd|y20xU|y20xUyhG|y20z6|y20xu|y20[1X|y20(z|y20wF|y20@2",
    "+|y20xB|y20(a|y20yP|y20?!|y20@6)|y20@@R|y20@0o|y20&2|y2Xv[j|y2X(Ej|y2@MBj|y20wF2tAg|y20@0o2v.g|e",
    "vr0$Z|evr0t2$Z|evr0$d|evr0t2$d|evr0$i|evr0x#|evr0t2x#|evr0yP|evr0%c|evr0$&|evr0%3|evr0$*|evr0%M|",
    "evr0#h|evr0xB|evr0t2xB|evr0t2xB2tJwK|evr0$?|evr0$c|evr0yh$c|evr0x_|evr0$=|evr0t2$=|evr0t2$=2tJwK",
    "|evr0$R-$c-%[|evr0zU|evr0$u|evr0t2$u|evr0t2$u2tJwK|evrVt0|evrVt3|evrVtC|evrVtQ|evrVtX|evrVvv|evr",
    "Vws|evrVx)|evrVt0uE|evrvAt0t(|evrY$c-%[|vr0$Z|vr0$d|vr0$i|vr0x#|vr0yP|vr0%c|vr0$&|vr0%3|vr0$*|vr",
    "0%M|vr0#h|vr0xB|vr0$?|vr0$c|vr0x_|vr0$=|vr0$R-$c|vr0zU|vr0$u|vr0@+i|vr0@Ni|vr#1zU|vrXtAt9|vrXt3p",
    "t9|vrXtAg|vrXt3pg|vrXyxg|vrXyxt9|vrXtWg|vrXtWt9|vrXugtWt9|vrX$Rt9|vrXtMt9|vrVt0|vrVvv|vrVws|vrVt",
    "0uE|vrv1t3tJ=W|vrv1t3tJ=W2p|vrv1tx2tA|vrv1t3$f2p|vrv1t(tx2tA|e!%0$Z|e!%0$d|e!%0$i-$&|e!%0yP|e!%0",
    "%c|e!%0t2$&|e!%0%3|e!%0$*|e!%0%M|e!%0#h|e!%0xB|e!%0$?|e!%0x_|e!%0$=|e!%0$R|e!%0zU|e!%0$u|e!%0@Ni",
    "|e!%XtAg|e!%XtAt9|e!%Xt3pg|e!%Xt3pt9|e!%v1u0|e!%v1t3=W|e!%v1t3p|e!%v1tQp|!L0$Z|!L03$Z|!L0$d|!L0$",
    "i|!L0%[|!L0x#|!L0yP|!L0@#RyP|!L0%c|!L0$&|!L0%3|!L0$*|!L0%M|!L0#h|!L0xB|!L0$?|!L0$c|!L0x_|!L0$R|!",
    "L0zU|!L0$u|!LVt0|!LVt3|!LVtC|!LVtQ|!LVvv|!LVws|!LVt0uE|#A0$Z|#A0$d|#A0$i|#A0%[|#A0x#|#A0yP|#A0%c",
    "|#A0$&|#A0(X|#A0%3|#A0$*|#A0%M|#A0#h|#A0xB|#A0$?|#A0$c|#A0x_|#A0$=|#A0(]|#A0$R|#A0zU|#A0$u|#AY%c",
    "-%3|uv1zG|uv1xa|uv1y.|uv1:C|uv1=4|uv0F|uv0ve|uv0t6|uv0v]|uv0n|uv0wL|uv0u3tu|uv0u3ys|uv0u3t+|uv0u",
    "3zB|uv0f|uv0v*|uv0t1|uv0wA|uv0td|uv0ww|uv0v0|uv0x[|uv0w9|uv0wM|uv0wt|uv0wE|uv0z4|uv0wy|uv0xr|uv0",
    "yb|uv0xs|uv0yk|uv0yI|uv0uq|uv0x3|uv0u=|uv0x+|uv0ue|uv0tr|uv0xT|uv0vS|uv0yK|uv0ub|uv0uY|uv0uS|uv0",
    "uw|uv0xU|uv0wI|uv0yt|uv0up|uv0t]|uv0!Y|uv0euN:P|uv0euN#&|uv0euN?r|uvH1ve|uvH1@u.ve|uvH1t6|uvH1v]",
    "|uvH1n|uvH1wL|uvH1u3tu|uvH1u3ys|uvH1u3t+|uvH1u3zB|uvH1f|uvH1v*|uvH1t1|uvH1wA|uvyg|uvzz|uvizz|uvv",
    "1tA|uvv1itA|uvv1vL|uvv1.mu0|uvv1@2z|uvVt0|uvVt3|uvVtC|uvVtQ|uvVtX|uvVt=|uvVuB|uvVt?|uvVuF|uvVvv|",
    "uvVws|uvVx)|uvVz!|uvVz8|uvV#j|uvVzN|uvV%D|uvVy&|uvVt0uE|uvVt0ux|uvEvV|uvEt0|uvEt3|uvEtC|uvEtQ|uv",
    "EtX|uvEt=|uvEuB|uvEt?|uvEuF|uv1euNyg|uv0euNv:f|uv0euNv:t1|uvH1euNv:f|uvH1euNv:t1|uv0euN!Y|uvV*a|",
    "wl1zG|wl1xa|wl1y.|wl0F|wl0ve|wl0t6|wl0v]|wl0n|wl0wL|wl0f|wl0v*|wl0t1|wl0wA|wl0td|wl0ww|wl0v0|wl0",
    "x[|wl0w9|wl0wM|wl0wt|wl0wE|wl0z4|wl0wy|wl0xr|wl0yb|wl0xs|wl0@JZ|wl0yk|wl0)x|wl0yI|wl0uq|wl0x3|wl",
    "0u=|wl0x+|wl0ue|wl0tr|wl0xT|wl0vS|wl0yK|wl0ub|wl0uY|wl0uS|wl0uw|wl0xU|wl0wI|wl0yt|wl0up|wl0t]|wl",
    "H1ve|wlH1t6|wlH1v]|wlH1n|wlH1wL|wlH1f|wlH1v*|wlH1t1|wlH1wA|wl1yg|wl1!+|wl#.1|wl@)y1|wlV1|wly*j|w",
    "liy*j|wlzz|wlizz|wlH1u3tu|wlV1g|zEzD0@SN|zEzD0yv|zEzD0@t)|zEzD0@wv|zEzD0@$(|zEzD0@L4|zEzD0@Ok|zE",
    "zD0[C]|zEzD0[3u|zEzD0@8(|zEzD0y_|zEzD0[JE|zEzD0@4m|zEzD0[OK|zEzD0ut|zEzD0@Mr|zEzD0@_M|zEzD0[GX|z",
    "EzD0&R|zEzD0@)L|zEzD0@7n|zEzD0@BZ|zEzD0?v|zEzD0(t|zEzD0@Oh|zEzDEvV|zEzDEt0|zEzDEt3|zEzDEtC|zEzDE",
    "tQ|zEzDEtX|zEzDEt=|zEzDEuB|zEzDEt?|zEzDEuF|wY1zG|wY1xa|wY1y.|wY0ve|wY0t6|wY0n|wY0f|wY0@2R|wY0@M)",
    "|wY0==|wY0@LR|wY0@31|wY0@5+|wY0@Iy|wY0@MY|wY0@_b|wY0@Q8|wY0@Ut|wY0@BT|wY0@JY|wY0@Jb|wY0[E(|wY0.5",
    "|wY0@0Q|wY0@JK|wY0@%?|wY0:V|wY0:g|wY0@Q=|wY0@16|wY0@u*|wY0@8W|wY0[hp|wY0=D|wY0@00|wY0?U|wY0@0g|w",
    "Y0@3u|wY0(6|wYH1F|wYH1t6|wYH1v]|wYH1n|wYH1wL|wYH1f|wYH1v*|wYH1t1|wYH1wA|wYH1?w|wYt1j|wYwAj|wYyg|",
    "wY[7v|wYEvV|wYEt0|wYEt3|wYEtC|wYEtQ|wYEtX|wYEt=|wYEuB|wYEt?|wYEuF|wYy*j|wYzz|wYizz|wY!6j|wY0@Nl|",
    "wYH1ve|wYH1)U|wY0@V9|yy0F|yy0t6|yy0n|yy0f|yy0t1|yy0td|yy0ww|yy0v0|yy0x[|yy0wM|yy0wt|yy0wE|yy0z4|",
    "yy0wy|yy0xr|yy0yb|yy0xs|yy0yk|yy0yI|yy0uq|yy0x3|yy0u=|yy0x+|yy0ue|yy0tr|yy0xT|yy0vS|yy0yK|yy0ub|",
    "yy0uS|yy0uw|yy0xU|yy0up|yy0t]|yy0#&|yy1!+|yy#.1|yyy*j|yyY@S#|vN1zG|vN1xa|vN1y.|vN0F|vN0ve|vN0t6|",
    "vN0v]|vN0n|vN0wL|vN0u3tu|vN0u3ys|vN0u3t+|vN0u3zB|vN0f|vN0v*|vN0t1|vN0wA|vN0td|vN0ww|vN0v0|vN0x[|",
    "vN0w9|vN0wM|vN0wt|vN0wE|vN0z4|vN0wy|vN0xr|vN0yb|vN0xs|vN0yk|vN0yI|vN0uq|vN0x3|vN0u=|vN0x+|vN0ue|",
    "vN0tr|vN0xT|vN0vS|vN0yK|vN0ub|vN0uY|vN0uS|vN0uw|vN0!Y|vN0xU|vN0wI|vN0yt|vN0up|vN0t]|vNH1ve|vNH1t",
    "6|vNH1v]|vNH1n|vNH1wL|vNH1u3tu|vNH1u3ys|vNH1u3t+|vNH1u3zB|vNH1f|vNH1v*|vNH1t1|vNH1wA|vN1yg|vN1$z",
    "|vN1:C|vN1=4|vN&B|vNzz|vNizz|vN#.1|vN!w|vN)yj|vN1!+|vNHt8j|vN)Yv:Hj|vN[W6j|vNH1@9vf|vN1wuzG|vNEv",
    "V|vNEt0|vNEt3|vNEtC|vNEtQ|vNEtX|vNEt=|vNEuB|vNEt?|vNEuF|vN@)V|vN1vE|vN@7Z|vN@!y1|vNy*j-v)|vNy*j-",
    "um|u#yiEt0|u#yiEt3|u#yiEtC|u#yiEtQ|u#yiEtX|u#yiEt=|u#yiEuB|u#yiEt?|u#yiEuF|u#yiVvv|u#yiVws|u#yiV",
    "x)|u#yiVz!|u#yiVz8|u#yiV#j|u#yiVzN|u#yiV%D|u#yiVy&|u#yiVt0uE|u#yiVt0ux|w?0F|w?0ve|w?0t6|w?0n|w?0",
    "f|w?0v*|w?0t1|w?0wA|w?0td|w?0ww|w?0v0|w?0.?|w?0x[|w?0w9|w?0wM|w?0wt|w?0wE|w?0?H|w?0wy|w?0xr|w?0y",
    "b|w?0xs|w?0yk|w?0yI|w?0uq|w?0x3|w?0u=|w?0@1c|w?0x+|w?0ue|w?0tr|w?0xT|w?0vS|w?0+Q|w?0yK|w?0ub|w?0",
    "uY|w?0uS|w?0uw|w?0xU|w?0up|w?0t]|w?0!Y|w?H1ve|w?H1t6|w?H1v]|w?H1n|w?H1f|w?H1v*|w?H1t1|w?H1wA|w?1",
    "xa|w?1yg|w?1!+|w?1%z|w?zz|w?izz|w?#H!w|w?y*j|w?iy*j|w?#.1|w?1*]|y$0F|y$0t6|y$0n|y$0f|y$0td|y$0ww",
    "|y$0v0|y$0x[|y$0wM|y$0wt|y$0wE|y$0?H|y$0wy|y$0xr|y$0yb|y$0xs|y$0@1c|y$0yk|y$0yI|y$0uq|y$0x3|y$0u",
    "=|y$0x+|y$0ue|y$0tr|y$0xT|y$0vS|y$0yK|y$0ub|y$0uY|y$0uS|y$0uw|y$0xU|y$0up|y$0t]|y$0#&|y$0)x|y$y*",
    "j|wg0F|wg0ve|wg0t6|wg0v]|wg0n|wg0wL|wg0f|wg0v*|wg0t1|wg0wA|wg0td|wg0ww|wg0v0|wg0.?|wg0x[|wg0w9|w",
    "g0wM|wg0wt|wg0wE|wg0?H|wg0z4|wg0wy|wg0xr|wg0yb|wg0xs|wg0@1c|wg0#&|wg0yk|wg0yI|wg0uq|wg0x3|wg0u=|",
    "wg0x+|wg0ue|wg0tr|wg0xT|wg0vS|wg0+Q|wg0yK|wg0ub|wg0uY|wg0uS|wg0uw|wg0xU|wg0wI|wg0up|wg0t]|wg1xa|",
    "wgH1ve|wgH1t6|wgH1v]|wgH1n|wgH1wL|wgH1f|wgH1v*|wgH1t1|wgH1wA|wg1!+|wg1yg|wgEvV|wgEt0|wgEt3|wgEtC",
    "|wgEtQ|wgEtX|wgEt=|wgEuB|wgEt?|wgEuF|vp1Xxag|vp1zG|vp1xa|vp1y.|vp0F|vp0ve|vp0t6|vp0v]|vp0n|vp0wL",
    "|vp0u3tu|vp0u3t+|vp0yX|vp0v*|vp0x.|vp0wA|vp0td|vp0ww|vp0v0|vp0x[|vp0w9|vp0wM|vp0wt|vp0wE|vp0z4|v",
    "p0wy|vp0xr|vp0yb|vp0xs|vp0yk|vp0yI|vp0uq|vp0x3|vp0u=|vp0x+|vp0ue|vp0tr|vp0xT|vp0vS|vp0yK|vp0ub|v",
    "p0uY|vp0uS|vp0uw|vp0!Y|vp0xU|vp0wI|vp0yt|vp0up|vp0t]|X%?t9|vp1!+|vp1$z|vpH1ve|vpH1t6|vpH1v]|vpH1",
    "n|vpH1wL|vpH1u3tu|vpH1u3ys|vpH1yX|vpH1v*|vpH1x.|vpH1wA|vp1yg|vp&B|vpwA#Sj|vp1@RC|vp0x?xa|vp0x?ix",
    "a|vp0u3ys|vp0u3zB|vpH1u3t+|vpH1u3zB|XvpEvV|XvpEt0|XvpEt3|XvpEtC|XvpEtQ|XvpEtX|XvpEt=|Xvp0F|Xvp0t",
    "d|Xvp0ue|Xvp0):|Xvp0tr|vG0F|vG0ve|vG0t6|vG0v]|vG0n|vG0wL|vG0u3tu|vG0u3ys|vG0u3t+|vG0u3zB|vG0f|vG",
    "0v*|vG0t1|vG0wA|vG0td|vG0ww|vG0v0|vG0x[|vG0w9|vG0@Pl|vG0wM|vG0wt|vG0wE|vG0z4|vG0wy|vG0@QA|vG0xr|",
    "vG0yb|vG0xs|vG0yk|vG0yI|vG0uq|vG0x3|vG0u=|vG0x+|vG0ue|vG0:a|vG0tr|vG0xT|vG0vS|vG0yK|vG0ub|vG0@O.",
    "|vG0uY|vG0uS|vG0)x|vG0uw|vG0*d|vG0v#|vG0wI|vG0yt|vG0up|vG0t]|vGH1ve|vGH1t6|vGH1v]|vGH1n|vGH1wL|v",
    "GH1u3tu|vGH1u3ys|vGH1u3t+|vGH1u3zB|vGH1f|vGH1v*|vGH1t1|vGH1wA|vG1yg|vG1zG|vG1xa|vG1y.|vG1!+|vG1$",
    "z|vG1t2xa|vG&B|vG[TS|vGzz|vGizz|vGx0|vG.=(3|vG#.1|vGEvV|vGEt0|vGEt3|vGEtC|vGEtQ|vGEtX|vGEt=|vGEu",
    "B|vGEt?|vGEuF|vGix0|vG@9nj|vG@7s1|vG)yj|vG0x?xa|vG1:C|vG1=4|v&@5b|v&0F|v&0ve|v&0t6|v&0v]|v&0n|v&",
    "0wL|v&0u3tu|v&0u3ys|v&0u3t+|v&0u3zB|v&0f|v&0v*|v&0t1|v&0wA|v&0td|v&0ww|v&0v0|v&0x[|v&0w9|v&0wM|v",
    "&0wt|v&0wE|v&0z4|v&0wy|v&0xr|v&0yb|v&0xs|v&0yk|v&0yI|v&0uq|v&0x3|v&0u=|v&0x+|v&0ue|v&0tr|v&0xT|v",
    "&0vS|v&0yK|v&0ub|v&0uY|v&0uS|v&0uw|v&0xU|v&0wI|v&0yt|v&0up|v&0t]|v&H1ve|v&H1t6|v&H1v]|v&H1n|v&H1",
    "wL|v&H1u3tu|v&H1u3ys|v&H1u3t+|v&H1u3zB|v&H1f|v&H1v:f|v&H1v*|v&H1t1|v&H1v:t1|v&H1wA|v&1zG|v&1xa|v",
    "&1y.|v&1yg|v&1!+|v&1$z|v&@?m|v&#.1|v&&B|v&EvV|v&Et0|v&Et3|v&EtC|v&EtQ|v&EtX|v&Et=|v&EuB|v&Et?|v&",
    "EuF|vE0F|vE0ve|vE0t6|vE0v]|vE0n|vE0wL|vE0u3tu|vE0u3ys|vE0u3t+|vE0u3zB|vE0f|vE0v*|vE0t1|vE0wA|vE0",
    "td|vE0ww|vE0v0|vE0x[|vE0w9|vE0wM|vE0wt|vE0wE|vE0z4|vE0wy|vE0xr|vE0yb|vE0xs|vE0yk|vE0yI|vE0uq|vE0",
    "x3|vE0u=|vE0x+|vE0ue|vE0tr|vE0xT|vE0vS|vE0yK|vE0ub|vE0uY|vE0uS|vE0uw|vE0xU|vE0wI|vE0yt|vE0up|vE0",
    "t]|vEH1ve|vEH1t6|vEH1v]|vEH1n|vEH1wL|vEH1u3tu|vEH1u3ys|vEH1f|vEH1v*|vEH1t1|vEH1wA|vE1zG|vE1xa|vE",
    "1y.|vE1yg|vE1!+|vE1vE|vEzz|vEizz|vE!wtA|vE!wu0|vE@03j-v)|vE@03j-um|vE@03j-vo|vEzmtS)&j|vEy*j2@0W",
    "Pn-%![Io|vEy*j2@0WPyF*F|vEy*j2(MPyF*F|vEy*j2(MPyFi*F|vEy*j2(MPyFx9*F|vEy*jiuk|vEy*jiuk2(M|vEy*j2",
    "i*F|vEy*j2x9*F|vEy*j2(L*F|vEy*j2[S6*F|vEy*j2$fP(M|vEy*j2$fPt3@KY|vEy*j2$fPtQ@KY|vE0tC-txyht6|vE0",
    "t3-txyht6|vE0t3-txyhv]|vE0yhn|vEH1yhn|vEH1yhwL|w00F|w00ve|w00t6|w00v]|w00n|w00wL|w00u3tu|w00u3ys",
    "|w00u3t+|w00u3zB|w00f|w00v*|w00t1|w00wA|w00td|w00ww|w00v0|w00x[|w00w9|w00wM|w00wt|w00wE|w00z4|w0",
    "0wy|w00xr|w00yb|w00xs|w00yk|w00yI|w00uq|w00x3|w00u=|w00x+|w00ue|w00tr|w00xT|w00vS|w00yK|w00ub|w0",
    "0uY|w00uS|w00uw|w00xU|w00wI|w00yt|w00up|w00t]|w00!Y|w0H1ve|w0H1t6|w0H1v]|w0H1n|w0H1wL|w0H1u3tu|w",
    "0H1u3ys|w0H1u3t+|w0H1u3zB|w0H1f|w0H1v*|w0H1t1|w0H1wA|w01xa|w01y.|w01yg|w01@qH|w0zz|w0izz|w0#.1|w",
    "01@]g|w0EvV|w0Et0|w0Et3|w0EtC|w0EtQ|w0EtX|w0Et=|w0EuB|w0Et?|w0EuF|t#%d2w$|t#w%%d|t#i%d2w$|t#x9%d",
    "2w$|t#%d2iw$|t#w%%d2w$|t#w%%d2iw$|t#wu%d|t#wu%d2iw$|t#@0M%d|t#@0M%d2w$|t#@0M%d2iw$|t#ul@0M%d2iw$",
    "|wr0F|wr0ve|wr0t6|wr0v]|wr0n|wr0wL|wr0f|wr0v*|wr0t1|wr0wA|wr0td|wr0ww|wr0v0|wr0x[|wr0w9|wr0wM|wr",
    "0wt|wr0wE|wr0z4|wr0wy|wr0xr|wr0yb|wr0xs|wr0yk|wr0yI|wr0uq|wr0x3|wr0u=|wr0x+|wr0ue|wr0tr|wr0xT|wr",
    "0vS|wr0yK|wr0ub|wr0uY|wr0uS|wr0uw|wr0xU|wr0wI|wr0up|wr0t]|wr0#&|wr1xa|wr1y.|wrH1ve|wrH1t6|wrH1v]",
    "|wrH1n|wrH1wL|wrH1f|wrH1v*|wrH1t1|wrH1wA|wr1yg|wr1!+|wr0yiww|wr#.1|wrEvV|wrEt0|wrEt3|wrEtC|wrEtQ",
    "|wrEtX|wrEt=|wrEuB|wrEt?|wrEuF|wz0td|wz0ww|wz0w9|wz0ue|wz0uq|wz0yhuq|wz0tr|wz0xT|wz0vS|wz0ub|wz0",
    "wE|wz0wt|wz0x3|wz0uS|wz0uw|wz0up|wz0wy|wz0t]|wz0F|wz0u=|wz0x+|wz0v0|wz0yhv0|wz0x[|wz0yK|wz0z4|wz",
    "0yhvS|wzvi1vCuw|wzvi1vCuS|wzvi1vC[4fuS|wzH1F|wzH1ve|wzH1t6|wzH1v]|wzH1n|wzH1wL|wzH1f|wzH1@5h|wzH",
    "1t1|wzH1v*|wzH1(i|wz1[1$|wzEvV|wzEt0|wzEt3|wzEtC|wzEtQ|wzEtX|wzEt=|wzEuB|wzEt?|wzEuF|wzVvv|wzVws",
    "|wz13y*|wz1y*|wz1[P[|wzB):|wz0wM|wz0xr|wz0yb|wz0xs|wz0yk|wz0yI|wz0!Y|x50F|x50ve|x50t6|x50v]|x50n",
    "|x50wL|x50f|x50v*|x50t1|x50wA|x50td|x50ww|x50v0|x50x[|x50w9|x50wM|x50wt|x50wE|x50z4|x50wy|x50xr|",
    "x50yb|x50xs|x50yk|x50yI|x50uq|x50x3|x50u=|x50x+|x50ue|x50tr|x50xT|x50vS|x50yK|x50ub|x50uY|x50uS|",
    "x50uw|x50xU|x50wI|x50yt|x50up|x50t]|x50#&|x5H1ve|x5H1t6|x5H1v]|x5H1n|x5H1wL|x5H1u3tu|x5H1u3ys|x5",
    "H1f|x5H1v*|x5H1t1|x5H1wA|x51xa|x51y.|x51yg|x51!+|x5#.1|vwvs50@31|vwvs50F|vwvs50!j|vwvs50xJ|vwvs5",
    "0uY|vwvs50xX|vwvs50v]|vwvs50wL|vwvs50f|vwvs50t1|vwvs50%:|vwvs50v0|vwvs50z#|vwvs50.#|vwvs50@V)|vw",
    "vs50@4U|vwvs50@6z|vwvs50+&|vwvs50@0X|vwvs50@9D|vwvs50u=|vwvs50!U|vwvs50(i|vwvs50!l|vwvs50&J|vwvs",
    "50@L:|vwvs50@L^|vwvs50@M1|vwvs50:0|vwvs50@Tc|vwvs50@0F|vwvs50@VL|vwvs30@31|vwvs30F|vwvs30!j|vwvs",
    "30xJ|vwvs30uY|vwvs30xX|vwvs30v]|vwvs30wL|vwvs30f|vwvs30t1|vwvs30%:|vwvs30v0|vwvs30z#|vwvs30.#|vw",
    "vs30@V)|vwvs30@4U|vwvs30@6z|vwvs30+&|vwvs30@0X|vwvs30@9D|vwvs30u=|vwvs30!U|vwvs30(i|vwvs30!l|vwv",
    "s30&J|vwvs30@L:|vwvs30@L^|vwvs30@M1|vwvs30:0|vwvs30@Tc|vwvs30@0F|vwvs30@VL|vwvsEvV|vwvsEt0|vwvsE",
    "t3|vwvsEtC|vwvsEtQ|vwvsEtX|vwvsEt=|vwvsEuB|vwvsEt?|vwvsEuF|vwvsVvv|vwvsVws|vwvsVx)|vwvsVz!|vwvsV",
    "z8|vwvsV#j|vwvsVzN|vwvsV%D|vwvsVy&|vwvs&B|wTwR0F|wTwR0ve|wTwR0t6|wTwR0v]|wTwR0n|wTwR0wL|wTwR0f|w",
    "TwR0t1|wTwR0td|wTwR0ww|wTwR0v0|wTwR0x[|wTwR0w9|wTwR0wM|wTwR0wt|wTwR0wE|wTwR0wy|wTwR0xr|wTwR0xs|w",
    "TwR0yk|wTwR0yI|wTwR0uq|wTwR0x3|wTwR0u=|wTwR0x+|wTwR0ue|wTwR0tr|wTwR0xT|wTwR0vS|wTwR0yK|wTwR0ub|w",
    "TwR0uY|wTwR0@4s|wTwR0uS|wTwR0uw|wTwR0xU|wTwR0wI|wTwR0yt|wTwR0up|wTwR0t]|wTwR0!Y|wTwR0xy|wTwRH1ve",
    "|wTwRH1t6|wTwRH1v]|wTwRH1n|wTwRH1wL|wTwRH1f|wTwRH1v*|wTwRH1t1|wTwR1xa|wTwR1zG|wTwR1@7U|wTwRyg|wT",
    "wR([?i1|wTwRvCuY|wTwRtcuS|wTwRvCuS|wTwR1!+|wTwRizz|wTwR.=(3|wTwRzmtS)&j|wTwREvV|wTwREt0|wTwREt3|",
    "wTwREtC|wTwREtQ|wTwREtX|wTwREt=|wTwREuB|wTwREt?|wTwREuF|w#0F|w#0ve|w#0t6|w#0v]|w#0n|w#0wL|w#0u3t",
    "u|w#0u3ys|w#0f|w#0v*|w#0t1|w#0wA|w#0td|w#0ww|w#0v0|w#0x[|w#0w9|w#0wM|w#0wt|w#0wE|w#0z4|w#0wy|w#0",
    "xr|w#0yb|w#0xs|w#0yk|w#0yI|w#0uq|w#0x3|w#0u=|w#0x+|w#0ue|w#0tr|w#0xT|w#0vS|w#0yK|w#0ub|w#0uY|w#0",
    "uS|w#0uw|w#0xU|w#0wI|w#0yt|w#0up|w#0t]|w#0!Y|w#0#&|w#H1ve|w#H1t6|w#H1v]|w#H1n|w#H1wL|w#H1u3tu|w#",
    "H1u3ys|w#H1f|w#H1v*|w#H1t1|w#H1wA|w#1xa|w#1y.|w#1yg|w#1$z|w#1vE|w#@7Z|w#H1@9vf|wXl0F|wXlH1t6|wXl",
    "H1#G|wXlH1n|wXlH1f|wXlH1yM|wXlH1t1|wXlH1v*|wXlH1wA|wXlH1vct6|wXlH#Sj|wXl0td|wXl0ww|wXl0v0|wXl0x[",
    "|wXl0w9|wXl0wM|wXl0wt|wXl0wE|wXl0wy|wXl0xr|wXl0yb|wXl0xs|wXl0yk|wXl0yI|wXl0uq|wXl0x3|wXl0u=|wXl0",
    "x+|wXl0ue|wXl0tr|wXl0xT|wXl0vS|wXl0yK|wXl0ub|wXl0z*|wXl0%Y|wXl0%_|wXl0=x|wXl0#b|wXl0xy|wXl0<F|wX",
    "l0uY|wXl0uS|wXl0uw|wXl0xU|wXl0wI|wXl0yt|wXl0up|wXl0t]|wXl0?T|wXlt2vij|wXl1yg|wXl1zG|wXl1zG2w$|wX",
    "l1%A2w$|wXl1xa|wXl1y.|wXl&[-tc0uS|wXl&[-t20uY|wXl&[-t20uS|wXl&[-t20uw|wXl&[-t20xU|wXltcz@j|wXl=j",
    "z@j|wXlj(Z|wXlj$@|wXlji$@|wXljug(Z|wXltci-@Nqz@j|wXl=ji-@Nqz@j|wXl@Tm|v!0F|v!H1t6|v!H1#G|v!H1n|v",
    "!H1f|v!H1t1|v!H1yM|v!H1v*|v!H1wA|v!H1u3tu|v!H1u3t+|v!H#Sj|v!0td|v!0ww|v!0v0|v!0x[|v!0w9|v!0wM|v!",
    "0wt|v!0wE|v!0z4|v!0wy|v!0xr|v!0yb|v!0xs|v!0yk|v!0yI|v!0uq|v!0x3|v!0u=|v!0x+|v!0ue|v!0tr|v!0xT|v!",
    "0vS|v!0yK|v!0ub|v!0z*|v!0%Y|v!0%_|v!0#b|v!0xy|v!0<F|v!0uY|v!0uS|v!0uw|v!0xU|v!0wI|v!0yt|v!0up|v!",
    "0t]|v!0?T|v!1:C|v!1=4|v!&[-tc0uS|v!&[-tc0uw|v!&[-tc0wI|v!&[-tc0up|v!t2vi1u[|v!t2vi1v3|v!t2vi1#$|",
    "v!t2vi1tV|v!t2vi1u5|v!t2vi1t4|v!t2vi1uz|v!t2vi1tu|v!t2vi1t+|v!t2vi1+?|v!t2vi1tt|v!t2vi1<F|v!1xa|",
    "v!1y.|v!=@j|v!@Tm|v!j(Z|v!j$@|v!ji$@|v!j@RC|v!z@j2!1P$_Px9@Kx|v!z@j2!1P$_P@Kx|v!z@j2!1P$_|v!@U5j",
    "-v)|v!@U5j-um|KL&nyG|KL&n@L)|KL&nzA|KL&n?6|KL&nt]|KL&n(6|KL&n@S#|KL&n[S[|KL&n[S^|KL&n[S_|KL&n[S?",
    "|KL&n[S@|KL[UO|KL[UU|KL[Ua|KL[UH|xIxGxE0tr|xIxGxE0td|xIxGxE0uw|xIxGxE0ub|xIxGxE0u=|xIxGxE0xy|xIx",
    "GxE0xU|xIxGxE0w9|xIxGxE0t]|xIxGxE0v0|xIxGxE0ww|xIxGxE0up|xIxGxE0vS|xIxGxE0wM|xIxGxE0uq|xIxGxE0x3",
    "|xIxGxE0ue|xIxGxE0xT|xIxGxE0uS|xIxGxE0yd|xIxGxE0wt|xIxGxE0F|xIxGxE0f|xIxGxE0t6|xIxGxE0t1|xIxGxE0",
    "n|xIxGxE0=2|xIxGxE0@2H|xIxGxE0t2vQ|xIxGxE0t2v3|xIxGxE0t2u]|xIxGxE0t2uz|xIxGxE0t2u5|xIxGxE0t2t+|x",
    "IxGxE0t2v(|xIxGxE0t2#$|xIxGxE0t2u?|xIxGxE%Stiug|xIxGxE%Sti|xIxGxE)yz9wJ|xIxGxE%Stiugt2|xIxGxE%St",
    "it2|xIxGxE)yz9wJt2|xIxGxE)ytiug|xIxGxE)yti|xIxGxE)ytiugt2|xIxGxE)ytit2|xIxGxE(G-+vti|xIxGxEz9wJz",
    "i|xIxGxE(G-+vtiugt2|xIxGxE(G-+vtit2|xIxGxEt_-&_tiug|xIxGxEt_-&_ti|xIxGxEz9wJ|xIxGxEt_-&_tiugt2|x",
    "IxGxEt_-&_tit2|xIxGxEz9wJt2|vF0F|vF0ve|vF0t6|vF0v]|vF0n|vF0wL|vF0u3tu|vF0u3ys|vF0u3t+|vF0f|vF0v*",
    "|vF0t1|vF0wA|vF0td|vF0ww|vF0v0|vF0x[|vF0w9|vF0wM|vF0wt|vF0wE|vF0z4|vF0wy|vF0xr|vF0yb|vF0xs|vF0yk",
    "|vF0yI|vF0uq|vF0x3|vF0u=|vF0x+|vF0ue|vF0tr|vF0xT|vF0vS|vF0yK|vF0ub|vF0uY|vF0uS|vF0uw|vF0xU|vF0wI",
    "|vF0yt|vF0up|vF0t]|vFH1ve|vFH1t6|vFH1v]|vFH1n|vFH1wL|vFH1u3tu|vFH1u3ys|vFH1u3t+|vFH1f|vFH1v*|vFH",
    "1t1|vFH1wA|vF1zG|vF1xa|vF1y.|vF1yg|vF1$z|vFzz|vFizz|vF#H!w|vF.=(3-v)|vF.=(3-um|vFEvV|vFEt0|vFEt3",
    "|vFEtC|vFEtQ|vFEtX|vFEt=|vFEuB|vFEt?|vFEuF|vFVt0|vFVt3|vFVtC|vFVtQ|vFVtX|vFVt=|vFVuB|vFVt?|vFVuF",
    "|vFVvv|vFVws|vFVx)|vFVz!|vFVz8|vFV#j|vFVzN|vFV%D|vFVy&|vF@7i&!j|wpz@j|wpj$@|wp0td|wp0ww|wp0v0|wp",
    "0w9|wp0wM|wp0wt|wp0wE|wp0wy|wp0uq|wp0x3|wp0u=|wp0ue|wp0tr|wp0xT|wp0vS|wp0ub|wp0z*|wp0%Y|wp0%_|wp",
    "0v#|wp0#b|wp0xy|wp0<F|wp0uY|wp0uS|wp0uw|wp0wI|wp0up|wp0t]|wp0F|wpvu0td|wpvu0ww|wpvu0v0|wpvu0w9|w",
    "pvu0wM|wpvu0wt|wpvu0wE|wpvu0wy|wpvu0uq|wpvu0x3|wpvu0u=|wpvu0ue|wpvu0tr|wpvu0xT|wpvu0vS|wpvu0ub|w",
    "pvu0z*|wpvu0%Y|wpvu0%_|wpvu0v#|wpvu0#b|wpvu0xy|wpvu0uY|wpvu0uS|wpvu0uw|wpvu0wI|wpvu0up|wpvu0t]|w",
    "pvu0F|wpH1ve|wpH1t6|wpH1n|wpH1f|wpH1t1|wp1xa|wp1zG|wDuJ0F|wDuJ0ve|wDuJ0t6|wDuJ0v]|wDuJ0n|wDuJ0wL",
    "|wDuJ0f|wDuJ0v*|wDuJ0t1|wDuJ0wA|wDuJ0td|wDuJ0ww|wDuJ0v0|wDuJ0x[|wDuJ0w9|wDuJ0wM|wDuJ0wt|wDuJ0wE|",
    "wDuJ0z4|wDuJ0wy|wDuJ0xr|wDuJ0yb|wDuJ0xs|wDuJ0yk|wDuJ0yI|wDuJ0uq|wDuJ0x3|wDuJ0u=|wDuJ0x+|wDuJ0ue|",
    "wDuJ0tr|wDuJ0xT|wDuJ0vS|wDuJ0yK|wDuJ0ub|wDuJ0uY|wDuJ0uS|wDuJ0uw|wDuJ0xU|wDuJ0wI|wDuJ0yt|wDuJ0up|",
    "wDuJ0t]|wDuJ0!Y|wDuJ0?T|wDuJ0@Mk|wDuJ0@BK|wDuJH1ve|wDuJH1t6|wDuJH1v]|wDuJH1n|wDuJH1wL|wDuJH1u3tu",
    "|wDuJH1f|wDuJH1v*|wDuJH1t1|wDuJH1wA|wDuJ1xa|wDuJ1y.|wDuJ1!+|wDuJ1%A|wDuJ1@7U|wDuJyg|wDuJ[O*|wDuJ",
    "uS-[0z|wDuJEvV|wDuJEt0|wDuJEt3|wDuJEtC|wDuJEtQ|wDuJEtX|wDuJEt=|wDuJEuB|wDuJEt?|wDuJEuF|w.uJ0F|w.",
    "uJ0ve|w.uJ0t6|w.uJ0v]|w.uJ0n|w.uJ0wL|w.uJ0yX|w.uJ0v*|w.uJ0x.|w.uJ0wA|w.uJ0uY|w.uJ0xU|w.uJ0vS|w.u",
    "J0yK|w.uJ0ub|w.uJ0td|w.uJ0ww|w.uJ0uq|w.uJ0x3|w.uJ0uw|w.uJ0v0|w.uJ0x[|w.uJ0u=|w.uJ0x+|w.uJ0ue|w.u",
    "J0wM|w.uJ0wt|w.uJ0xr|w.uJ0yb|w.uJ0!Y|w.uJ0wE|w.uJ0z4|w.uJ0xs|w.uJ0yk|w.uJ0w9|w.uJ0tr|w.uJ0xT|w.u",
    "J0t]|w.uJ0uS|w.uJ0up|w.uJH1ve|w.uJH1t6|w.uJH1v]|w.uJH1n|w.uJH1wL|w.uJH1yX|w.uJH1v*|w.uJH1x.|w.uJ",
    "H1wA|w.uJ1xa|w.uJ1y.|w.uJyg|w.uJ&B|w.uJEvV|w.uJEt0|w.uJEt3|w.uJEtC|w.uJEtQ|w.uJEtX|w.uJEt=|w.uJE",
    "uB|w.uJEt?|w.uJEuF|!)0td|!)0v0|!)0w9|!)0tr|!)0vS|!)0ub|!)0uq|!)0u=|!)0ue|!)0wM|!)0wE|!)0wy|!)0uY",
    "|!)0uS|!)0uw|!)0xU|!)0up|!)0F|!)@pu|!)H1t6|!)H1n|!)H1f|!)H1t1|!)[J+|!)zmtSy*|x&0[hC|uNvAt0tC-uE-",
    "P-@BY|uNvAt0t0-uE-P-@T2|uNvAt0@)S|uNvAt0#j-+j|uNvAt0@K+|uNvAt0x)-&u|uNvAtC@KQ|uNvAtC#j-@.I|uNvAt",
    "0@BY|uNvAt0*.-v)|uNvAt0*.-um|uNvAt0@A_|uNvAt0ym|uNvAtC@U&|uNvAtC@3@|uNvAt0@6]|uNvAt0yr|uNvAt0t(-",
    "v)|uNvAt0t(-um|uNvAtC%R|uNvA@(2@6.[1#|uN1[C$|uN1@xs|uN1@ne|uN1[cD|uN1[B5|uN1[2.|uN1[J@|uN1[Az|uN",
    "1[0b|uN1[JX|uN1?=|uN1[dJ|uN1[J5|uN1[2^|uN1[dY|uN[f3@JA1|uN@6r@JA1|uN[3%1|uN(P@9W1|uN@UZ@6K1|uN@U",
    "ZV1|uN@6P1|uNP+&1|uN[US1|uN@UV1|uNw*@RH1|uN[VHz31|uN1[B3|uN1[dE|uNv1zmtS)&|A1F|A1FNF|A1FN#@|A1FN",
    "#Pyf|A1FNt]|A1FNze|A1FN%LxO|A1FN$o|A1FN!8|A1@5V|A1#c|A1#cN(j|A1#cN+axO|A1#cN)c|A1#cN#Pyf|A1#cNt]",
    "|A1#cNzexO|A1#cN@2J|A1#cNw:|A1#cN@AL|A1#cNntsntsn|A1#cxO|A1#+|A1#+N@18|A1#+N#Pyf|A1#+Ny[tsxM|A1#",
    "+N&w|A1#+N%0|A1+K|A1.S|A1.SN.&|A1.SN@3)ts#Q|A1#:|A1#:N#:|A1#:N@6h|A1#:N#Q|A1#:Nt]|A1#:N?J|A1#:Nz",
    "S|A1#:Ny1|A1#:N&$|A1@pM|A1$Z|A1@0_|A1@0_Ny1|A1yz|A1yzuRyz|A1yztCN|A1yzts*n*tyzts*n|A1yzts*nty|A1",
    "@5c|A1@q4|A1@HV|A1@HVN$4|A1@qO|A1@qe|A1xK|A1xK@W7yf|A1xK@Mpyf|A1xKuRxK+7uR+7+7uR+7$O|A1xKuRxKuRx",
    "K|A1xKuRxKuRxKzZxKuRxKuRxK|A1(j|A1@5f|A1vS|A1#@|A1@t!|A1=U|A1=V|A1=VuR=V|A1@18|A1u0|A1@u2|A1#]|A",
    "1#]NF|A1#]Nz?|A1#]NzexO|A1!l|A1!luR!l#c|A1!luR!l)+|A1!lzZ!l|A1@1I|A1@1IuR@1I|A1)K|A1@w3|A1u=|A1!",
    "W|A1!Wz[NFts+y|A1!Wz[N@0_|A1!Wz[N@18|A1!Wz[N#]|A1!Wz[Nv0|A1!Wz[Nv0ts+y|A1!Wz[N#0|A1!Wz[N+m|A1!Wz",
    "[N$k|A1!Wz[Nt]|A1!Wz[N?C|A1!Wz[N?Cts!u|A1!Wz[N(%|A1!Wz[Nuw|A1!Wz[N!u|A1!Wz[N!uts@Oq|A1!Wz[N&k|A1",
    "!Wz[NyT|A1!Wz[N$Ots$O|A1!Wz[N!9|A1!Wz[N%0|A1!Wz[N%Zts+m|A1!Wz[N&$|A1@$:|A1@JQ|A1@JR|A1@$^|A1$0|A",
    "1@Jv|A1+X|A1+XNy1|A1@6h|A1@1l|A1@1l%JnxO#8|A1#8|A1$1|A1$1uR$1|A1$1xO|A1$1$[|A1.v|A1.vN(u|A1@(A|A",
    "1zH|A1@(D|A1@(E|A1@6t|A1+a|A1+axO|A1+axOxO|A1@(H|A1@(N|A1f|A1fN$O|A1fuRfxBuRxB|A1&a|A1&aNFtst]ts",
    "u=|A1&aNz?|A1&aNy]|A1&aN(O|A1&aNy1|A1&aNn|A1@)I|A1@)Q|A1#9|A1xM|A1xMN#P|A1xMN#Pyf|A1xMNy[|A1xMzZ",
    "xM|A1xM*txM|A1xMty|A1@Ke|A1.&|A1(u|A1zn|A1znNF|A1znNFts&j|A1znNFts&jN&j|A1znNyz|A1znN#@|A1znN+ax",
    "O|A1znN+axOxO|A1znNt]|A1znNt]xO|A1znNzexO|A1znN%J|A1znN%Jty|A1znN:L|A1znNuw|A1znN&jN&j|A1znNw!|A",
    "1znN!u|A1znN%Z|A1znN!T|A1v0|A1v0xO|A1w8|A1w8NFtsu=tst]|A1w8NFtst]|A1w8NFtsze|A1w8N#+yfts)5|A1w8N",
    "yz|A1w8NxK|A1w8N(jts)c|A1w8N#@|A1w8Nu0tsuS|A1w8N)K|A1w8N)KtsuS|A1w8Nu=|A1w8N$0|A1w8N+XNy1|A1w8N.",
    "v|A1w8N#9|A1w8N#9tsuw|A1w8NxM|A1w8NxMN#Pyf|A1w8N#Pyf|A1w8Nz?|A1w8N#0|A1w8N+l|A1w8N+ltsF|A1w8N+mt",
    "sz)|A1w8Nt]ts!uts(u|A1w8N._|A1w8N._tsuw|A1w8NyGtsw!|A1w8N*V|A1w8NzexO|A1w8N@7xts$mtsxK|A1w8N(%|A",
    "1w8N%J|A1w8N@2Y|A1w8N@2Yts&j|A1w8N:Ltsyz|A1w8Nuw|A1w8Ny[tsxM|A1w8Ny]|A1w8NxB|A1w8NxBuRxB|A1w8Ntr",
    "|A1w8N(O|A1w8N:v|A1w8Ny1|A1w8Ny1ts=1|A1w8N:z|A1w8N:*|A1w8N%0|A1w8Nn|A1w8N!T|A1w8N!Tts$1|A1w8uRw8",
    "|A1@1_|A1@1_zZ@1_|A1(y|A1(yuR(yz?uRz?|A1)c|A1)c(yuR(yz?uRz?|A1@:X|A1@:Y|A1+k|A1#P|A1#Pyf|A1#PuR#",
    "P|A1#PzZ#P|A1z?|A1@:e|A1@:j|A1@7I|A1@7IN$4|A1#0|A1#0Nf|A1#0Nn|A1#0zZ#0|A1+l|A1+luR+l|A1+lzZ+l|A1",
    "@=r|A1+m|A1+mxO|A1.@|A1.@NFtsze|A1.@N#Pyf|A1.@Nze|A1.@N!utsze|A1.@Ntr|A1@=(|A1#Q|A1#QzZ#Q|A1#QN#",
    "@|A1#QN%0|A1#Qyf|A1$j|A1$jzZ$j|A1+n|A1+nN(%|A1+nN(%NzexO|A1+nNxB|A1+nN(Ots+7|A1+nxO|A1$k|A1$kNFt",
    "s$4|A1$kN$4|A1$kuR$k+w|A1@Li|A1@7T|A1@7TNy1|A1@27|A1@Lj|A1@?h|A1@?i|A1t]|A1t]yf|A1t]xO|A1._|A1yG",
    "|A1yGNxK|A1yGN(j|A1yGN#@|A1yGN#8|A1yGN(y|A1yGN@81|A1yGNxB|A1yGNy1|A1yGNn|A1$m|A1*V|A1*VNyz|A1*VN",
    "._|A1*VN%J|A1*VN@8P|A1*VN!T|A1@]W|A1t6|A1t6F|A1@7k|A1?8|A1?8uR?8)K|A1?8uR?8ty|A1@MH|A1ze|A1ze@Jv",
    "|A1ze#D|A1zeuRze:!uR:!!TuR!T|A1zexO|A1@ML|A1@MLN#Pyf|A1@^Z|A1%I|A1%IN%0|A1%IzZ%I|A1%I*t%I|A1%Ity",
    "|A1@2J|A1w*|A1?C|A1@7x|A1td|A1tdNF|A1tdN+K|A1tdN+Kts:L|A1tdN(j|A1tdN#@|A1tdN@18|A1tdNu0|A1tdN#]|",
    "A1tdN.&|A1tdN(u|A1tdNv0|A1tdN)c|A1tdN#Pyf|A1tdNz?|A1tdNz?ts&wtsF|A1tdN#0|A1tdN+m|A1tdN#Qts:v|A1t",
    "dN#QzZ#Q|A1tdN$j|A1tdN@Lj|A1tdNze|A1tdN%I|A1tdN(%|A1tdNzS|A1tdN@2Y|A1tdNw!|A1tdN!u|A1tdNy[|A1tdN",
    "y[ts$1|A1tdNy[ts#0|A1tdNy[tsxv|A1tdNy]|A1tdNy]ts%u|A1tdNyT|A1tdNxB|A1tdNxi|A1tdN!7|A1tdNup|A1tdN",
    ":v|A1tdNwI|A1tdNy1|A1tdN:z|A1tdN%W|A1tdN@S=|A1tdN@Tr|A1tdN.9|A1tdNn|A1tdN%Z|A1tdN!T|A1tdN@4YNtr|",
    "A1tdN&$|A1tdN(g|A1@7)|A1@7)zZ@7)|A1@Mo|A1@Mq|A1?J|A1[0j|A1@7*|A1@7*uR@7*|A1(%|A1(%NzexO|A1?K|A1?",
    "KN#@|A1?KzZ?K|A1[0q|A1[0r|A1%J|A1%Jw:NnuRw:Nn|A1%JuR%Jw:NnuRw:Nn|A1@M#|A1zS|A1zSN#@|A1zSNn|A1zSN",
    "!T|A1@2Y|A1@81|A1[1=|A1[1?|A1z[|A1z[uRz[|A1z]|A1z]uRyGN(jz]uRyGN(j|A1:L|A1@NE|A1@NEziG|A1[2q|A1@",
    "2h|A1@2hxO|A1@NF|A1$4|A1$4*t$4|A1:M|A1[34|A1uw|A1w:|A1w:NF|A1w:NFtsu=tst]|A1w:NFtsz?|A1w:NFts&j|",
    "A1w:N#:|A1w:Nyz|A1w:NxK@W7yf|A1w:N#@|A1w:N#]|A1w:N@JQ|A1w:NxM|A1w:Nv0|A1w:Nz?|A1w:N$k|A1w:N$kts$",
    "k|A1w:Nt]|A1w:N._|A1w:NyGNxB|A1w:NzexO|A1w:N%I|A1w:N%Itst]|A1w:N%Its!u|A1w:NzS|A1w:N@81|A1w:N:L|",
    "A1w:N@2h|A1w:N@2htsyGtsF|A1w:Nw:|A1w:N@8P|A1w:N!u|A1w:N@8T|A1w:Ny[|A1w:Ny[tsxM|A1w:N$o|A1w:NyT|A",
    "1w:Ny1ts:*|A1w:N@3)ts#Qts.&|A1w:N@3)ts#Qyf|A1w:N)!|A1w:N)!ts)!|A1w:N:*|A1w:Nu.|A1w:N%0|A1w:Nxvts",
    "Ftsz)tsue|A1w:Nn|A1w:NntsF|A1w:Nntsntsn|A1w:N%ZtsxK|A1w:N!T|A1w:N&$|A1w:ty|A1%L|A1%LNy1|A1%LNy1t",
    "s:*|A1%LxO|A1%LxOuR%LxOy1|A1[3v|A1&j|A1&jN&j|A1wF|A1wFN$4|A1wFN$4ts!7|A1w!|A1[4i|A1[4q|A1@8P|A1!",
    "u|A1!uN#@|A1z5|A1z5N#:|A1z5N#@|A1z5N(u|A1z5N(uyf|A1z5N#Pyf|A1z5NyGN#@|A1z5N%I|A1z5N@Mq|A1z5N?J|A",
    "1z5N?JtsxK|A1z5NzS|A1z5NuwtsxK|A1z5Nw:|A1z5Ny[tsxM|A1z5NyT|A1z5NzC|A1z5N!9tsxK|A1z5N@S[ts!l|A1z5",
    "N+7|A1z5yf|A1z5zZz5|A1z5*tz5|A1z5ty|A1z5$[|A1:R|A1+w|A1+wuR+w|A1+w*t+w|A1+w$[|A1@8S|A1@8T|A1&k|A",
    "1&kuR&k|A1&kuR&kz?uRz?|A1ub|A1ubN%0|A1ubxO|A1[7t|A1@Ok|A1@Oo|A1+y|A1@Oq|A1y[|A1@8n|A1y]|A1@2.|A1",
    "x]|A1x]uRx]|A1@2?|A1@2?xO|A1[A)|A1[A^|A1$o|A1$oNF|A1$oN$4|A1$oNxy|A1$ouR$o|A1$ouR$oNFtsue|A1$ozZ",
    "$o|A1:T|A1:TNF|A1:TNFts$0|A1:TN$0|A1:TxO|A1ue|A1@PI|A1*n|A1*nwu|A1*nN%Wyf|A1*n*t*n|A1[B&|A1@PM@Q",
    "1|A1@PM|A1@PN|A1yT|A1yTNF|A1yTN!T|A1yT$[|A1yU|A1yUNf|A1[D%|A1@94|A1@94N#Pyf|A1@94Nz?ts#Pyf|A1!e|",
    "A1!eNyz|A1!eNxK|A1!eNxKtsxK|A1!eN$k|A1!eNy[ts#Pyf|A1!eNyT|A1!eNxB|A1!eNy1|A1!eNy1tsFyz|A1!eNy1ts",
    "xK|A1!eNy1tsxKtsxK|A1!eN%ZtsxK|A1!eN&$|A1[E3|A1zC|A1@P[|A1xB|A1xB%LNz?|A1xB%LN+y|A1xB%LN(O|A1xB%",
    "LN(OuRxB%LN(O|A1xB%LN&$|A1xByf|A1xBuRxB|A1xBzZxB|A1xBzZxB%LuR%L|A1%u|A1%u#+N@5f|A1%u#+N#]|A1%u#+",
    "NzH|A1%u#+N$k|A1%u#+NzexO|A1%u#+N?J|A1%u#+Nuw|A1%u#+NyT|A1%u#+N@S]|A1%u#+N%Z|A1%uz[N#]|A1%uz[N#]",
    "n|A1tr|A1?#|A1@9W|A1$O|A1@Q+|A1xi|A1xiNF|A1xiN#c|A1xiN#]|A1xiN!l|A1xiNf|A1xiNt6|A1xiN@7k|A1xiNn|",
    "A1xiN%Z|A1xizZxi|A1:l|A1:lN?K|A1:lN!T|A1:lNxy|A1:l*t:l|A1uS|A1[OG|A1#D|A1!7|A1up|A1!8@Q1|A1!8|A1",
    "!8NF|A1!8N$1|A1!8N.v|A1!8Nt]|A1!8N(%|A1!8N$4|A1!8N&k|A1!8Ny]|A1!8NxB|A1!8N(O|A1!8N:z|A1!8N)5|A1!",
    "8N%Z|A1!8N@U=|A1!8N(a|A1!8N).|A1!8N&$|A1!8uR!8|A1!8xO|A1(O|A1(Ow:N(j|A1[RV|A1:v|A1wI|A1&w|A1&wNF",
    "|A1&wN#@|A1&wN#Q|A1&wNyT|A1&wN)!|A1&wN=1|A1&wNn|A1&wNntsF|A1@Sl|A1[SP|A1&x|A1y1|A1y1$m|A1y1uRy1(",
    "yuR(yz?uRz?|A1y1uRy1)5uR)5z?uRz?|A1[Sh|A1[Si|A1@AL|A1[Sl|A1[Sm|A1:z|A1:zNF|A1:zN%I|A1&L|A1&LNF|A",
    "1&LN=V|A1&LN@1I|A1&LN@1l|A1&LNz?|A1&LNze|A1&LNzexO|A1&LN:M|A1&LN@8T|A1&LN@2?|A1&LN(O|A1[Sv|A1:!|",
    "A1:!yf|A1:!uR:!)KuR)K|A1@3)|A1%W|A1%WuRwu%W|A1)!|A1[T2|A1!9|A1!9xO|A1@S=|A1@3:|A1@3:uR@3:)!|A1@S",
    "[|A1@S]|A1z)|A1z)uRz)|A1[V$|A1[V%|A1@Tr|A1:*|A1[V(|A1@48|A1[V_|A1uq|A1uqy4|A1uqNyG|A1uqNy]|A1uqx",
    "O|A1)5|A1)5uR)5yUuRyU#8uR#8|A1)5ty|A1u.|A1u.N#]|A1u.N$k|A1u.Ny1|A1u.N%W|A1u.N+7|A1u.N!T|A1%0|A1.",
    "9|A1xv|A1xvxO|A1!#|A1!#yf|A1@BB|A1.F|A1.FN%0|A1.FuR.F|A1.FuR.F(yuR(yz?uRz?|A1z+|A1+7|A1@U!|A1@0Z",
    "|A1=1|A1=1uR=1xyuRxy|A1n|A1n$k|A1nnn|A1nuRntruRtrz?uRz?|A1nuRn@48uR@48|A1nuRnnvcuRnvc|A1%Z|A1@U=",
    "|A1!T|A1!T:M|A1!TN#@|A1!TNy]|A1!TNntsntsn|A1!TNntsntsnxO|A1!TxO|A1!T$[|A1!T$[N#@|A1[bP|A1(a|A1(a",
    "Nw:|A1(aNy[tsu=|A1(aN&w|A1(aNn|A1[bh|A1@4Y|A1@4YN%J|A1@4YNtr|A1)+|A1)+xO|A1).|A1).zZ).|A1).$[|A1",
    "&#|A1&#NFtst]|A1&#NFtsue|A1&#N#:|A1&#Nt]|A1&#NxB|A1&#N%Z|A1&#N%ZtsxK|A1&#N%Zts#]|A1[b)|A1[b+|A1[",
    "b.|A1!i|A1!iNF|A1!iN@5f|A1!iNu0|A1!iN@6t|A1!iNv0|A1!iN)c|A1!iN#Pyf|A1!iNz?|A1!iN$j|A1!iNt]|A1!iN",
    "ze|A1!iN%I|A1!iN@7x|A1!iNzS|A1!iN&k|A1!iN@2.|A1!iNtr|A1!iNy1|A1!iN@3:|A1!iNz+|A1!iNnts$k|A1!iN!T",
    "|A1!iN=5|A1=5|A1=5Nn|A1&$|A1&$NF|A1&$Nz]|A1&$N$4|A1&$N%0|A1[c0|A1[b]|A1[b_|A1[c3|A1@V8|A1@V8N%J|",
    "A1[cE|A1xy|A1xyyf|A1xytyN$4|A1[iK|A1[iN|A1[iW|A1(g|A1(guR(g|A1[i+|A1@W6|A1@W6@Mpyf|A1[i?|A1@W8|A",
    "1&+|A1@B^|A1@B^NF|A1[jA|A1[jB|A1@Ms=z|A1#cNxB|A1#+NF|A1@0_N[2x|A1!Wz[N%Zts+y|A1@$!|A1#8ts%W|A1.v",
    "Ny1|A1znN$k|A1znNy1|A1w8Nyzts(%tsF|A1w8N(j|A1@:x|A1@=x|A1@]d|A1tdN@5c|A1tdN@qi|A1tdN#Q|A1tdN$k|A",
    "1tdNyGN(j|A1tdN&k|A1tdNtr|A1tdN[T6|A1tdNz+|A1tdN&#|A1w:N#0|A1z5$[N#@|A1z5N(uts&j|A1z5N%W|A1@O&|A",
    "1:TNxy|A1[B#|A1@95|A1[D]|A1!eN=V|A1!eN#0|A1@P[w%y&xc|A1@Q+y4|A1[L0|A1!8NzexO|A1[Yd|A1(aNy[|A1nn|",
    "Au!1t3xK|Au!1tCxK|Au!1tQxK|Au!1tXxK|Au!1t=xK|Au!1uBxK|Au!1t?xK|Au!1uFxK|Au!1tC#8|Au!1tQ#8|Au!1tX",
    "#8|Au!1t=#8|Au!1uB#8|Au!1t?#8|Au!1uF#8|Au!1tQn|Au!1tXn|Au!1t=n|Au!1uBn|Au!1t?n|Au!1uFn|Au!1t0)d|",
    "Au!1t3)d|Au!1tC)d|Au!1tQ)d|Au!1tX)d|Au!1t=)d|Au!1uB)d|Au!1t?)d|Au!1uF)d|Au!1t0=[|Au!1t3=[|Au!1tC",
    "=[|Au!1tQ=[|Au!1tX=[|Au!1t3&x|Au!1tC&x|Au!1tC&xziG|Au!1tQ&x|Au!1tX&x|Au!1t=&x|Au!1uB&x|Au!1t?&x|",
    "Au!1uF&x|Au!1t0:x|Au!1t3:x|Au!1tC:x|Au!1tC:xziG|Au!1tQ:x|Au!1tX:x|Au!1&xN)cts#8|Au!1&xN)cts@2.|A",
    "u!1t0.g|Au!1t3.g|Au!1tC.g|Au!1tC.gziG|Au!1tQ.g|Au!1tX.g|Au!1tCziG@)+|Au!1tCziG@).|Au!1tQziG@8N|A",
    "u!1tQziG[4r|Au!1tQziG@8NF|Au!1tQziG@8Nt4|Au!1t=ziG@qj|Au!1uBziG@^l|Au!1uBziG@2JF|Au!1uBziG@2Jt4|",
    "Au!1t?ziG[c1|Au!1t?ziG[c2|Au!1uFziG@MM|Au!1uFziG@^a|Au!1uFziG@^b|Au!1uFziG@MMF|Au!1t3xKyf|Au!1tC",
    "xKyf|Au!1tQxKyf|Au!1tXxKyf|Au!1t=xKyf|Au!1t0+P|Au!1t3+P|Au!1tC+P|Au!1tQ+P|Au!1tQ+PziG|Au!1tX+P|A",
    "u!1tX+PziG|Au!1[D:|Au!1[D.|Au!1t0@Kh|Au!1t3@Kh|Au!1t0%%#8|Au!1t3))#8|Au!1tX@T1#8|Au!1t0%%ziGF|Au",
    "!1t3))ziGF|Au!1t0ymxK|Au!1t0yrxK|Au!1e@5gt0@AV|Au!1e@5gt0yr|Au!1t0yr@27|Au!1t0t(@27|Au!1=zt0%%|A",
    "u!1=zt3))|Au!1=zz!|Au!1=zz8|Au!1tQnziG|Au!1tXnziG|Au!1t=nziG|Au!1uBnziG|Au!1t?nziG|Au!1uFnziG|Av",
    "11e@5g#H.s|Av11tJzY|Av11ufzY|Av11uf@Ue|Av11uf[NL|A1#cNxByf|A1#cN)!|A1+KN(u|A1#@N#8yf|A1=UN#+|A1=",
    "UNyU|A1=UNxy|A1!luR!lN@PI|A1u=N%0|A1!WN$4|A1+XNze|A1+XNnnn|A1@6hN!T|A1zHN@5c|A1zHNxK|A1zHNxK!Uc|",
    "A1zHN@1l|A1zHN@6t|A1zHN.&|A1zHNv0|A1zHN#0|A1zHN+mxO|A1zHN#Q|A1zHNt]|A1zHNyG|A1zHNzexO|A1zHN%J|A1",
    "zHN$4|A1zHN:M|A1zHN:Mts%J|A1zHNwN-@C0|A1zHNwF|A1zHNwFN$4|A1zHN@8Sts#Q|A1zHN+y|A1zHN@8n|A1zHNy]|A",
    "1zHNyU|A1zHNxi|A1zHNy1|A1zHN!9xO|A1&aN$4|A1&aN$O|A1.&vj|A1(uzZ(u|A1zn$[NxK|A1zn$[NyG|A1zn$[NzexO",
    "|A1zn$[Nuw|A1zn$[N&j|A1zn$[Ny[|A1zn$[N@8n|A1zn$[Nz)|A1znNz)|A1w8N=U|A1w8N+XxO|A1w8NzHNzexO|A1w8N",
    "zHN%J|A1w8N@Ke|A1w8Nv0|A1w8Nz?ts$0|A1w8Nz?tsyT|A1w8Nt]tsF|A1w8N:Mts%J|A1w8NwF|A1w8NwFN$4|A1w8N@8",
    "S|A1w8N$o|A1w8NyT|A1w8NyTts&a|A1w8NyTts#0|A1w8N&L|A1w8N@W8|A1@1_w%y&xc|A1@7INn|A1#QN#QzZ#Q|A1+nN",
    "zexO|A1$kts#QN%0|A1t]yfxO|A1yGNxKuRyGNxK|A1tdN!l|A1tdNtd|A1tdNnnn|A1tdN).|A1w:N&+uR&+|A1wN-@B_|A",
    "1wN-@C1|A1wN-@C2|A1wN-@C3|A1wN-@4y|A1wN-@C4|A1wN-@C5|A1wN-@4zuRwN-@4zxO|A1wN-@C6|A1wN-@4!uRwN-@4",
    "!|A1wN-@C7|A1wN-@4&|A1wN-@4+|A1wN-@50|A1wN-@51|A1wN-@52|A1wN-@53|A1wN-@54|A1wN-@0(|A1wN-@D+|A1wN",
    "-@D.|A1wN-@D_|A1wN-@5D|A1wN-@5E|A1wN-@E6|A1wN-@E7|A1wN-@E8|A1wN-@EC|A1wN-+J|A1wN-+JN$j|A1wN-+JNz",
    "e|A1wN-+JN$Ots:R|A1wN-+JN$Ots$Ots:R|A1wN-+JN%ZtsvS|A1wN-@ED|A1wN-@5L|A1wN-@EH|A1wN-@EJ|A1wN-@EL|",
    "A1wN-@EM|A1wN-@EN|A1wN-@EO|A1wN-@ER|A1wN-@EX|A1wN-&Q|A1wN-&QNxK|A1wN-&QN#@|A1wN-&QN+axOxO|A1wN-&",
    "QN:L|A1wN-&QNuw|A1wN-&QN.9|A1wN-&QNxv|A1wN-&QN%Z|A1wN-&QN!T|A1wN-&QN=5|A1wN-@EZ|A1wN-&.|A1wN-&.N",
    ".v|A1wN-&.Nv0|A1wN-&.Nze|A1wN-&.NzexO|A1wN-&.NyU|A1wN-&.N$Ots$Ots:R|A1wN-&.N@ALtszS|A1wN-&.N!T|A",
    "1wN-&.N=5|A1wN-@Ee|A1wN-@Ef|A1z5xONxK|A1z5N#8|A1z5N._|A1z5N$O|A1z5N$Ots$Ots:R|A1z5N%0|A1y]ts@V^|",
    "A1$ouR$oNv0|A1$ouR$oN(%|A1!eN+XxO|A1!eN#Q|A1!eN@Li|A1!eNyG|A1!eN@M#|A1!eNwN-@4y|A1!eN+y|A1!eN$Ot",
    "s$O|A1!eNn|A1!eNntsn|A1!eN=5|A1!8xONt]|A1!8NxM|A1!8Ny1!Uc|A1!8N%0|A1@Slyf|A1y1uRy1|A1y1ts*V|A1y1",
    "ts@PN|A1y1ts:v|A1)!tszHNyU|A1)!ts&aNyz|A1!9N%0|A1%0ts!8|A1@0ZN#Pyf|A1@0ZNtC#8|A1&#wu|A1&#N!T|A1!",
    "iN@JR|A1!iNwN-@Ea|A1!iN:R|A1@V^|A1&+uR&+ts:v|A1@B^NtC#8yf|v7-v91@z4|v7-v91@z5|v7-v91@z6|v7-v91@z",
    "7|v7-v91@z8|v7-v91@z9|v7-v91@zA|v7-v91@zB|v7-v91@zC|v7-v91@zD|v7-v91@zE|v7-v91@zF|v7-v91@zG|v7-v",
    "91@zH|v7-v91@zI|v7-v91@zJ|v7-v91@zK|v7-v91@zL|v7-v91@zM|v7-v91@zN|v7-v91@zO|v7-v91@zP|v7-v91@zQ|",
    "v7-v91@zR|v7-v91@zS|v7-v91@zT|v7-v91@zU|v7-v91@zV|v7-v91@zW|v7-v91@zX|v7-v91@zY|v7-v91@zZ|v7-v91",
    "@za|v7-v91@zb|v7-v91@zc|v7-v91@zd|v7-v91@ze|v7-v91@zf|v7-v91@zg|v7-v91@zh|v7-v91@zi|v7-v91@zj|v7",
    "-v91@zk|v7-v91@zl|v7-v91@zm|v7-v91@zn|v7-v91@zo|v7-v91@zp|v7-v91@zq|v7-v91@zr|v7-v91@zs|v7-v91@z",
    "t|v7-v91@zu|v7-v91@zv|v7-v91@zw|v7-v91@zx|v7-v91@zy|v7-v91@zz|v7-v91@z!|v7-v91@z#|v7-v91@z$|v7-v",
    "91@z%|v7-v91@z&|v7-v91@z(|v7-v91@z)|v7-v91@z*|v7-v91@z+|v7-v91@z.|v7-v91@z:|v7-v91@z=|v7-v91@z?|",
    "v7-v91@z@|v7-v91@z[|v7-v91@z]|v7-v91@z^|v7-v91@z_|v7-v91@!0|v7-v91@!1|v7-v91@!2|v7-v91@!3|v7-v91",
    "@!4|v7-v91@!5|v7-v91@!6|v7-v91@!7|v7-v91@!8|v7-v91@!9|v7-v91@!A|v7-v91@!B|v7-v91@!C|v7-v91@!D|v7",
    "-v91@!E|v7-v91@!F|v7-v91@!G|v7-v91@!H|v7-v91@!I|v7-v91@!J|v7-v91@!K|v7-v91@!L|v7-v91@!M|D6@Eh|D6",
    "@Ei|D6@Ej|D6@Ek|D6@El|D6@g3|D6@Em|D6@g4|D6@g5|D6@En|D6@Eo|D6@Ep|D6@Eq|D6@Er|D6@Es|D6@Et|D6@Eu|D6",
    "@g7|D6@Ev|D6@Ew|D6@Ex|D6@g8|D6@Ey|D6@Ez|D6@E!|D6@E#|D6@E$|D6@E%|D6@E&|D6@E(|D6@E)|D6@E*|D6@E+|D6",
    "@E.|D6@E:|D6@E=|D6@E?|D6@gB|D6@E@|D6@E[|D6@E]|D6@E^|D6@E_|D6@F0|D6@F1|D6@F2|D6@gD|D6@F3|D6@F4|D6",
    "@gF|D6@F5|D6@gG|D6@F6|D6@F7|D6@F8|D6@F9|D6@FA|D6@FB|D6@FC|D6@FD|D6@FE|D6@FF|D6@FG|D6@FH|D6@FI|D6",
    "@FJ|D6@FK|D6@FL|D6@FM|D6@FN|D6@FO|D6@FP|D6@FQ|D6@FR|D6@FS|D6@FT|D6@FU|D6@FV|D6@FW|D6@FX|D6@Hq|D6",
    "@Hr|D6@Hs|D6@Ht|D6@Hu|D6@rD|D6@Hv|D6@Hw|D6@Hx|D6@Hy|D6@wL|D6@wM|D6@wN|D6@wO|D6@wP|D6@wQ|D6@wR|D6",
    "@wS|D6@wT|D6@wU|D6@wV|D6@wW|D6@wX|D6@wY|D6@wZ|D6@wa|D6@wb|D6@wc|D6@wd|D6@we|D6@wf|D6@wg|D6@wh|D6",
    "@wi|D6@wj|D6@wk|D6@wl|D6@wm|D6@#j|D6@#k|D6@#l|D6@#m|D6@#n|D6@#o|D6@#p|D6@#q|D6@#r|D6@#s|D6@#t|D6",
    "@#u|D6@#v|D6@#w|D6@#x|D6@#y|D6@#z|D6@#!|D6@##|D6@#$|D6@#%|D6@#&|D6@#(|D6@#)|D6@#*|D6@#+|D6@#.|D6",
    "@#:|D6@#=|D6@#?|D6@#@|D6@#[|D6@#]|D6@#^|D6@#_|D6@$0|D6@$1|D6@$2|D6@$3|D6@$4|D6@$5|D6@$6|D6@$7|D6",
    "@$8|D6@$9|D6@$A|D6@$B|D6@$C|D6@$D|D6@$E|D6@$F|D6@$G|D6@$H|D6@$I|D6@$J|D6@$K|D6@$L|D6@$M|D6@$N|D6",
    "@$O|D6@$P|D6@$Q|D6@$R|D6@$S|D6@$T|D6@$U|D6@$V|D6@$W|D6@$X|D6@$Y|D6@$Z|D6@$a|D6@$b|D6@$c|D6@$d|D6",
    "@$e|D6@$f|D6@$g|D6@$h|D6@$i|D6@$j|D6@$k|D6@$l|D6@$m|D6@$n|D6@$o|D6@$p|D6@$q|D6@$r|D6@$s|D6@$t|D6",
    "@$u|D6@(l|D6@(m|D6@(n|D6@(o|D6@(p|D6@(q|D6@(r|D6@(s|D6@(t|D6@(u|D6@(v|D6@(w|D6@(x|D6@(y|D6@(z|D6",
    "@(!|D6@(#|D6@($|D6@(%|D6@(&|D6@((|D6@()|D6@(*|D6@(+|D6@(.|D6@(:|D6@(=|D6@(?|D6@(@|D6@([|D6@(]|D6",
    "@(^|D6@(_|D6@)0|D6@)1|D6@)2|D6@)3|D6@)4|D6@)5|D6@)6|D6@)7|D6@)8|D6@)9|D6@)A|D6@*M|D6@*N|D6@*O|D6",
    "@*P|D6@*Q|D6@*R|D6@*S|D6@*T|D6@*U|D6@*V|D6@*W|D6@*X|D6@*Y|D6@*Z|D6@*a|D6@*b|D6@*c|D6@*d|D6@*e|D6",
    "@*f|D6@*g|D6@*h|D6@*i|D6@*j|D6@*k|D6@*l|D6@*m|D6@*n|D6@*o|D6@*p|D6@*q|D6@*r|D6@*s|D6@*t|D6@*u|D6",
    "@*v|D6@*w|D6@*x|D6@*y|D6@*z|D6@*!|D6@*#|D6@*$|D6@*%|D6@*&|D6@*(|D6@*)|D6@**|D6@*+|D6@*.|D6@*:|D6",
    "@*=|D6@*?|D6@*@|D6@*[|D6@*]|D6@*^|D6@*_|D6@+0|D6@+1|D6@+2|D6@+3|D6@+4|D6@+5|D6@+6|D6@.i|D6@.j|D6",
    "@.k|D6@.l|D6@.m|D6@.n|D6@.o|D6@.p|D6@.q|D6@.r|D6@.s|D6@.t|D6@.u|D6@.v|D6@.w|D6@.x|D6@.y|D6@.z|D6",
    "@.!|D6@.#|D6@.$|D6@.%|D6@.&|D6@.(|D6@.)|D6@.*|D6@.+|D6@..|D6@.:|D6@.=|D6@.?|D6@.@|D6@.[|D6@.]|D6",
    "@.^|D6@._|D6@:0|D6@:1|D6@:2|D6@:3|D6@:4|D6@:5|D6@:6|D6@:7|D6@:8|D6@:9|D6@:A|D6@:B|D6@:C|D6@:D|D6",
    "@:E|D6@:F|D6@:G|D6@:H|D6@:I|D6@:J|D6@:K|D6@:L|D6@:M|D6@:N|D6@:O|D6@:P|D6@:Q|D6@:R|D6@?!|D6@?#|D6",
    "@?$|D6@?%|D6@?&|D6@?(|D6@?)|D6@?*|D6@?+|D6@^2|D6@^3|D6@^4|D6@^5|D6@^6|D6@^7|D6@^8|D6@^9|D6@^A|D6",
    "@^B|D6@^C|D6@^D|D6@^E|D6@^F|D6@^G|D6@^H|D6@^I|D6@^J|D6@^K|D6[0Q|D6[0R|D6[0S|D6[0T|D6[0U|D6[0V|D6",
    "[0W|D6[0X|D6[3P|D6[3Q|D6[3R|D6[3S|D6[3T|D6[3U|D6[3V|D6[3W|D6[3X|D6[3Y|D6@N]|D6[5e|D6[5f|D6@N^|D6",
    "@N_|D6[5g|D6@O0|D6@O1|D6@O2|D6@O3|D6@O4|D6@O5|D6@O6|D6[5h|D6@O7|D6@O8|D6[5i|D6[5j|D6[5k|D6[5l|D6",
    "[5m|D6[5n|D6[5o|D6[5p|D6@O9|D6@OA|D6@OB|D6[5q|D6@OC|D6[5r|D6@OD|D6[5s|D6@OE|D6@OF|D6@OG|D6@OH|D6",
    "@OI|D6[5t|D6@OJ|D6@OK|D6[5u|D6@OL|D6@OM|D6@ON|D6@OO|D6[5v|D6@OP|D6@OQ|D6@OR|D6[5w|D6@OS|D6@OT|D6",
    "[5x|D6[5y|D6@OU|D6@OV|D6@OW|D6@OX|D6@OY|D6@OZ|D6@Oa|D6[5z|D6@Ob|D6@Oc|D6@Od|D6@Oe|D6[BE|D6[BF|D6",
    "[BG|D6[BH|D6[BI|D6[BJ|D6[BK|D6[BL|D6[BM|D6[BN|D6[BO|D6[BP|D6[BQ|D6[BR|D6[BS|D6[BT|D6[BU|D6[BV|D6",
    "[BW|D6[BX|D6[BY|D6[BZ|D6[Ba|D6[Bb|D6[Bc|D6[Bd|D6[Be|D6[Bf|D6[Bg|D6[Bh|D6[Bi|D6[Bj|D6[Bk|D6[Bl|D6",
    "[Bm|D6[Bn|D6[Bo|D6[Bp|D6[Bq|D6[Br|D6[Bs|D6[Bt|D6[Bu|D6[Bv|D6[Bw|D6[Bx|D6[By|D6[Bz|D6[B!|D6[Eh|D6",
    "[Ei|D6[Ej|D6[Ek|D6[El|D6[Em|D6[En|D6[Eo|D6[Ep|D6[Eq|D6[Er|D6[Es|D6[Et|D6[Eu|D6[Ev|D6[Ew|D6[Ex|D6",
    "[Ey|D6[Ez|D6[E!|D6[E#|D6[E$|D6[F.|D6[F:|D6[F=|D6[F?|D6[F@|D6[F[|D6[F]|D6[F^|D6[F_|D6[G0|D6[G1|D6",
    "[G2|D6[G3|D6[G4|D6[G5|D6[G6|D6[G7|D6[G8|D6[G9|D6[GA|D6[GB|D6[GC|D6[GD|D6[GE|D6[GF|D6[GG|D6[HA|D6",
    "[HB|D6[HC|D6[HD|D6[HE|D6[HF|D6[HG|D6[HH|D6[HI|D6[HJ|D6[HK|D6[HL|D6[HM|D6[HN|D6[HO|D6[HP|D6[HQ|D6",
    "[HR|D6[HS|D6[HT|D6[HU|D6[HV|D6[HW|D6[HX|D6[HY|D6[HZ|D6[Ha|D6[Hb|D6[Hc|D6[Hd|D6[He|D6[Hf|D6[Hg|D6",
    "[Hh|D6[Hi|D6[Hj|D6[Hk|D6[Hl|D6[Hm|D6[Hn|D6[Ho|D6[Hp|D6[Hq|D6[Hr|D6[Hs|D6[Ht|D6[Hu|D6[Hv|D6[Hw|D6",
    "[Hx|D6[Hy|D6[Hz|D6[H!|D6[H#|D6[H$|D6[H%|D6[H&|D6[H(|D6[H)|D6[H*|D6[H+|D6[H.|D6[H:|D6[H=|D6[H?|D6",
    "[H@|D6[H[|D6[H]|D6[H^|D6[H_|D6[I0|D6[I1|D6[I2|D6[I3|D6[I4|D6[I*|D6[I+|D6[I.|D6[I:|D6[I=|D6[I?|D6",
    "[I@|D6[I[|D6[I]|D6[I^|D6[I_|D6[J0|D6[J1|D6[Mr|D6[Ms|D6[Mt|D6[Mu|D6[Mv|D6[Mw|D6[Mx|D6[Nx|D6[Ny|D6",
    "[Nz|D6[N!|D6[N#|D6[N$|D6[N%|D6[N&|D6[N(|D6[N)|D6[N*|D6[N+|D6[N.|D6[N:|D6[N=|D6[N?|D6[N@|D6[N[|D6",
    "[N]|D6[N^|D6[N_|D6[O0|D6[O1|D6[O2|D6[O3|D6[O4|D6[O5|D6[O6|D6[O7|D6[O8|D6[O9|D6[OA|D6[OB|D6[OC|D6",
    "[QP|D6[QQ|D6[QR|D6[QS|D6[QT|D6[QU|D6[QV|D6[QW|D6[QX|D6[QY|D6[QZ|D6[Qa|D6[Qb|D6[Qc|D6[Qd|D6[Qe|D6",
    "[Qf|D6[Qg|D6[Qh|D6[Qi|D6[Qj|D6[Qk|D6[Ql|D6[Qm|D6[Qn|D6[Qo|D6[Qp|D6[Qq|D6[Qr|D6[Qs|D6[Qt|D6[Qu|D6",
    "[Qv|D6[Qw|D6[Qx|D6[Qy|D6[Qz|D6[Q!|D6[Q#|D6[Q$|D6[Q%|D6[Q&|D6[Q(|D6[Q)|D6[Q*|D6[Q+|D6[Q.|D6[Q:|D6",
    "[Q=|D6[Q?|D6[Q@|D6[Q[|D6[Q]|D6[Q^|D6[Wm|D6[Wn|D6[Wo|D6[Wp|D6[Wq|D6[Wr|D6[Ws|D6[Wt|D6[Wu|D6[Wv|D6",
    "[Ww|D6[Wx|D6[Wy|D6[Wz|D6[W!|D6[W#|D6[W$|D6[W%|D6[W&|D6[W(|D6[W)|D6[W*|D6[W+|D6[W.|D6[W:|D6[W=|D6",
    "[W?|D6[W@|D6[W[|D6[W]|D6[W^|D6[W_|D6[X0|D6[X1|D6[X2|D6[X3|D6[X4|D6[X5|D6[X6|D6[X7|D6[X8|D6[X9|D6",
    "[XA|D6[XB|D6[ap|D6[aq|D6[ar|D6[as|D6[at|D6[au|D6[av|D6[aw|D6[ax|D6[ay|D6[az|D6[a!|D6[a#|D6[a$|D6",
    "[a%|D6[a&|D6[a(|D6[a)|D6[a*|D6[a+|D6[a.|D6[a:|D6[a=|D6[a?|D6[a@|D6[a[|D6[a]|D6[a^|D6[a_|D6[b0|D6",
    "[b1|D6[b2|D6[b3|D6[b4|D6[b5|D6[b6|D6[b7|D6[b8|D6[b9|D6[bA|D6[bB|D6[bC|D6[bD|D6[bE|D6[bF|D6[bG|D6",
    "[bH|D6[cF|D6[cG|D6[cH|D6[cI|D6[cJ|D6[cK|D6[cL|D6[cM|D6[cN|D6[cO|D6[cP|D6[cQ|D6[cR|D6[cS|D6[cT|D6",
    "[cU|D6[cV|D6[cW|D6[cX|D6[cY|D6[cZ|D6[ca|D6[cb|D6[cc|D6[cd|D6[ce|D6[cf|D6[cg|D6[ch|D6[ci|D6[cj|D6",
    "[ck|D6[cl|D6[cm|D6[cn|D6[co|D6[cp|D6[cq|D6[cr|D6[cs|D6[ct|D6[cu|D6[cv|D6[cw|D6[cx|D6[cy|D6[cz|D6",
    "[c!|D6[c#|D6[c$|D6[c%|D6[c&|D6[c(|D6[c)|D6[c*|D6[c+|D6[c.|D6[c:|D6[c=|D6[c?|D6[c@|D6[c[|D6[c]|D6",
    "[c^|D6[c_|D6[d0|D6[d1|D6[d2|D6[d3|D6[d4|D6[d5|D6[d6|D6[d7|D6[d8|D6[d9|D6[dA|D6[dB|D6[eM|D6[eN|D6",
    "[eO|D6[eP|D6[eQ|D6[eR|D6[eS|D6[eT|D6[eU|D6[eV|D6[eW|D6[eX|D6[eY|D6[eZ|D6[ea|D6[eb|D6[ec|D6[ed|D6",
    "[ee|D6[ef|D6[eg|D6[eh|D6[ei|D6[ej|D6[ek|D6[el|D6[em|D6[en|D6[eo|D6[ep|D6[eq|D6[er|D6[fs|D6[ft|D6",
    "[fu|D6[fv|D6[fw|D6[fx|D6[fy|D6[fz|D6[f!|D6[f#|D6[f$|D6[f%|D6[gX|D6[gY|D6[gZ|D6[ga|D6[gb|D6[gc|D6",
    "[gd|D6[ge|D6[gf|D6[hw|D6[hx|D6[hy|D6[hz|D6[h!|D6[h#|D6[h$|D6[h%|D6[h&|D6[h(|D6[h)|D6[h*|D6[h+|D6",
    "[h.|D6[h:|D6[h=|D6[h?|D6[h@|D6[h[|D6[h]|D6[h^|D6[h_|D6[i0|D6[i1|D6[i2|D6[i3|D6[i4|D6[i5|D6[i6|D6",
    "[i7|D6[i8|D6[i9|D6[iA|D6[iB|D6[iC|D6[iD|D6[iE|D6[iF|D6[iG|D6[iH|D6[iI|D6@m?|D6@m@|D6@m[|D6@m]|D6",
    "@m^|D6@m_|D6@n0|D6@n1|D6@n2|D6@n3|D6@n4|D6@n5|D6@n6|D6@n7|D6@n8|D6@n9|D6@nA|D6@nB|D6@nC|D6@nD|D6",
    "@nE|D6@nF|D6@nG|D6@nH|D6@nI|D6@nJ|D6@nK|D6@nL|D6@nM|D6@nN|D6@nO|D6@nP|D6@nQ|D6@nR|D6tJ*a|D6t**a|",
    "D6@2K!Uxx@0J|D6@2K!Uyw@0J|D6@2K!Uxxzm|D6@2K!Uywzm|D6#CtR|D6*7@AC|D6zm@AC|S6@Eh|S6@Ei|S6@Ej|S6@Ek",
    "|S6@El|S6@Em|S6@En|S6@Eo|S6@Ep|S6@Eq|S6@g6|S6@Er|S6@Es|S6@Et|S6@Eu|S6@Ev|S6@Ew|S6@Ex|S6@Ey|S6@Ez",
    "|S6@E!|S6@E#|S6@E$|S6@E%|S6@E&|S6@E(|S6@E)|S6@g9|S6@E*|S6@E+|S6@E.|S6@E:|S6@E=|S6@E?|S6@E@|S6@E[",
    "|S6@E]|S6@E^|S6@E_|S6@F0|S6@F1|S6@gC|S6@F2|S6@F3|S6@gE|S6@F4|S6@F5|S6@F6|S6@F7|S6@F8|S6@F9|S6@gH",
    "|S6@gI|S6@FA|S6@FB|S6@FC|S6@FD|S6@FE|S6@FF|S6@FG|S6@FH|S6@FI|S6@FJ|S6@FK|S6@FL|S6@FM|S6@FN|S6@FO",
    "|S6@FP|S6@FQ|S6@FR|S6@FS|S6@FT|S6@gJ|S6@gK|S6@gL|S6@FU|S6@FV|S6@FW|S6@FX|S6@gM|S6@gN|S6@gO|S6@gP",
    "|S6@gQ|S6@gR|S6@gS|S6@gT|S6@gU|S6@gV|S6@gW|S6@gX|S6@gY|S6@gZ|S6@ga|S6@gb|S6@gc|S6@gd|S6@ge|S6@gf",
    "|S6@gg|S6@gh|S6@gi|S6@gj|S6@gk|S6@gl|S6@gm|S6@gn|S6@go|S6@gp|S6@gq|S6@FY|S6@gr|S6@gs|S6@gt|S6@gu",
    "|S6@gv|S6@gw|S6@gx|S6@gy|S6@gz|S6@g!|S6@g#|S6@g$|S6@g%|S6@g&|S6@g(|S6@g)|S6@g*|S6@g+|S6@g.|S6@g:",
    "|S6@g=|S6@g?|S6@g@|S6@g[|S6@g]|S6@g^|S6@g_|S6@h0|S6@h1|S6@h2|S6@h3|S6@h4|S6@h5|S6@h6|S6@h8|S6@h9",
    "|S6@hA|S6@hB|S6@hC|S6@hD|S6@hE|S6@hF|S6@hG|S6@hH|S6@hI|S6@hJ|S6@hL|S6@hM|S6@hN|S6@hO|S6@hP|S6@hQ",
    "|S6@hR|S6@hS|S6@hT|S6@hU|S6@hV|S6@hW|S6@hX|S6@hY|S6@hZ|S6@ha|S6@hb|S6@hc|S6@hd|S6@he|S6@hf|S6@hg",
    "|S6@hh|S6@hi|S6@hj|S6@hk|S6@hl|S6@hm|S6@hn|S6@ho|S6@hp|S6@hq|S6@hr|S6@hs|S6@ht|S6@hu|S6@hv|S6@hw",
    "|S6@hx|S6@hy|S6@hz|S6@h!|S6@h#|S6@h$|S6@h%|S6@h&|S6@h(|S6@h)|S6@h*|S6@h+|S6@h.|S6@h:|S6@h=|S6@h?",
    "|S6@h@|S6@h[|S6@h]|S6@h^|S6@h_|S6@i0|S6@i1|S6@i2|S6@i3|S6@i4|S6@i5|S6@i6|S6@i7|S6@i8|S6@i9|S6@iA",
    "|S6@iB|S6@iC|S6@iD|S6@iE|S6@iF|S6@iG|S6@iH|S6@iI|S6@iJ|S6@iK|S6@iL|S6@iM|S6@iN|S6@iO|S6@iP|S6@iQ",
    "|S6@iR|S6@iS|S6@iT|S6@iU|S6@iV|S6@iW|S6@iX|S6@iY|S6@iZ|S6@ia|S6@ib|S6@ic|S6@id|S6@ie|S6@if|S6@ig",
    "|S6@ih|S6@ii|S6@ij|S6@ik|S6@il|S6@im|S6@in|S6@io|S6@ip|S6@iq|S6@ir|S6@is|S6@it|S6@iu|S6@iv|S6@iw",
    "|S6@ix|S6@iy|S6@iz|S6@i!|S6@i#|S6@i$|S6@i%|S6@i&|S6@i(|S6@i)|S6@i*|S6@i+|S6@i.|S6@i:|S6@i=|S6@i?",
    "|S6@i@|S6@i[|S6@i]|S6@i^|S6@i_|S6@j0|S6@j1|S6@j2|S6@j3|S6@j4|S6@j5|S6@j6|S6@j7|S6@j8|S6@j9|S6@jA",
    "|S6@jB|S6@jC|S6@jD|S6@jE|S6@jF|S6@jG|S6@jH|S6@jI|S6@jJ|S6@jK|S6@jL|S6@jM|S6@jN|S6@jO|S6@jP|S6@jQ",
    "|S6@jR|S6@jS|S6@jT|S6@jU|S6@jV|S6@jW|S6@jX|S6@jY|S6@jZ|S6@ja|S6@jb|S6@jc|S6@jd|S6@je|S6@jg|S6@FZ",
    "|S6@Fa|S6@Fb|S6@Fc|S6@Fd|S6@Fe|S6@Ff|S6@Fg|S6@jh|S6@Fh|S6@Fi|S6@Fj|S6@Fk|S6@jk|S6@Fl|S6@Fm|S6@Fn",
    "|S6@Fo|S6@Fp|S6@Fq|S6@Fr|S6@Fs|S6@Ft|S6@Fu|S6@Fv|S6@Fw|S6@Fx|S6@Fy|S6@Fz|S6@F!|S6@jo|S6@F#|S6@F$",
    "|S6@jq|S6@jr|S6@js|S6@F%|S6@F&|S6@F(|S6@F)|S6@jt|S6@ju|S6@jv|S6@F*|S6@F+|S6@F.|S6@F:|S6@F=|S6@F?",
    "|S6@F@|S6@F[|S6@F]|S6@F^|S6@F_|S6@G0|S6@G1|S6@G2|S6@G3|S6@G4|S6@G5|S6@G6|S6@G7|S6@G8|S6@G9|S6@GA",
    "|S6@GB|S6@jw|S6@GC|S6@GD|S6@GE|S6@GF|S6@GG|S6@jx|S6@GH|S6@GI|S6@GJ|S6@GK|S6@jy|S6@GL|S6@GM|S6@GN",
    "|S6@jz|S6@j!|S6@j#|S6@j$|S6@j%|S6@j&|S6@j(|S6@j)|S6@j*|S6@j+|S6@j.|S6@j:|S6@j=|S6@j?uSvM#D|S6@j@",
    "|S6@j[|S6@j]|S6@j^|S6@j_|S6@k0|S6@k1|S6@k2|S6@k3|S6@k4|S6@k5|S6@k6t?|S6@k7|S6@k8|S6@k9|S6@kA|S6@",
    "kB|S6@kC|S6@GO|S6@GP|S6@GQ|S6@GR|S6@GS|S6@GT|S6@GU|S6@GV|S6@GW|S6@GX|S6@GY*7*gj|S6@kDzm*gj|S6@GZ",
    "|S6@Ga|S6@Gb|S6@Gc|S6@Gd|S6@Ge|S6@Gf|S6@Gg|S6@kE|S6@kF|S6@kG|S6@kH|S6@kI|S6@kJ|S6@kK|S6@kL|S6@kM",
    "|S6@kN|S6@kO|S6@kP|S6@kQ|S6@kR|S6@kS|S6@kT|S6@kU|S6@kV|S6@kW|S6@kX|S6@kY|S6@kZ|S6@ka|S6@kb|S6@kc",
    "|S6@kd|S6@ke|S6@kf|S6@kg|S6@kh|S6@ki|S6@kj|S6@kk|S6@kl|S6@km|S6@kn|S6@ko|S6@kp|S6@kq|S6@kr|S6@ks",
    "|S6@kt|S6@ku|S6@kv|S6@kw|S6@kx|S6@ky|S6@kz|S6@k!|S6@k#|S6@k$|S6@k%|S6@k&|S6@k(|S6@k)|S6@k*|S6@k+",
    "|S6@k.|S6@k:|S6@k=|S6@k?|S6@k@|S6@k[|S6@k]|S6@k^|S6@k_|S6@l0|S6@l1|S6@l2|S6@l3|S6@l4|S6@l5|S6@l6",
    "|S6@l7|S6@l8|S6@l9|S6@lA|S6@lB|S6@lC|S6@lD|S6@lE|S6@Gh|S6@Gi|S6@Gj|S6@Gk|S6@Gl|S6@Gm|S6@lF|S6@Gn",
    "|S6@Go|S6@Gp|S6@Gq|S6@Gr|S6@Gs|S6@lG|S6@Gt|S6@Gu|S6@lH|S6@lI|S6@lJ|S6@Gv|S6@Gw|S6@lK|S6@Gx|S6@Gy",
    "|S6@Gz|S6@G!|S6@G#|S6@G$|S6@G%|S6@G&|O0T-F@Pn*k|O0T-F@:t@.3|O0T-F?=*k@R4|O0T-F?=*k@R3|O0T-F:V*k|",
    "O0T-F[T3|O0T-F@UL*k|O0T-F@9J*k|O0T-F[Sutr:b|O0T-F?=tr:b@R4|O0T-F?=tr:b@R3|O0T-F[7!|O0T-Fz+@8Z|O0",
    "T-F[D0|O0T-F[7%|O0T-F[8C|O0T-F[B7|O0T-F[SD|O0T-F[F#|O0T-F[1N|O0T-F[Ef|O0T-F@49|O0T-F[Df|O0T-F[3(",
    "|O0T-F@8K@2i|O0T-F@36[9I|O0T-F[7y|O0T-F[J&|O0T-F@=d|O0T-F[JU|O0T-F&8@Pi|O0T-F[G]@8o|O0T-Fn@B)@PK",
    "|O0T-F@=c|O0T-F@36@P=|O0T-F[Tj|O0T-F[9U|O0T-F[9E|O0T-F[AV|O0T-F[0k|O0T-Ftr@8J|O0T-F:Y@8J|O0T-F[K",
    "X|O0T-F[7$|O0T-F[D?|O0T-F@RW|O0T-F[a6|O0T-F[5E|O0T-F[U5|O0T-F[X]|O0T-F[7(|O0T-F+u|O0T-F[CX|O0T-F",
    "[2$|O0T-F[AU|O0T-F[T7|O0T-F[50|O0T-F@+y|O0T-F[Pa|O0T-F[2h|O0T-F[U8|O0T-F?X[K%|O0T-F[Sx|O0T-F@36|",
    "O0T-F@AP@9B@V*|O0T-F@QD[AN|O0T-F[J4|O0T-F@P%|O0T-F[bx|O0T-F@8_|O0T-F@Oi|O0T-F@Px|O0T-F@Os|O0T-F@",
    "9H|O0T-F@U9|O0T-F@Ae|O0T-F@Qg|O0T-F@P.|O0T-F@8Y|O0T-F%v|O0T-F[0x|O0T-F@9A|O0T-F+9|O0T-F!u|O0T-F@",
    "8[|O0T-F@PP|O0T-F[8p|O0T-t4[Fo|O0T-t4z+[7#|O0T-t4[TU|O0T-t4)zz+|O0T-t4@N#@37|O0T-t4?Y[7z|O0T-t4[",
    "1w|O0T-t4[h8|O0T-t4[8o|O0T-t4[0p|O0T-t4[KE|O0T-t4[gs@8J|O0T-t4wF@9B@39|O0T-t4[F![Sq|O0T-t4@30[E8",
    "|O0T-t4@=f|O0T-t4@R6|O0T-t4z+@P:|O0T-t4@Ss[EA|O0T-t4[Sp|O0T-t4*k@UA|O0T-t4@8f[8n|O0T-t4%v@37|O0T",
    "-t4[1Q|O0T-t4@=e|O0T-t4[1T|O0T-t4[3g|O0T-t4[J$|O0T-t4[dh|O0T-t4[De@PB|O0T-t4[DF@8i|O0T-t4[fh|O0T",
    "-t4[RA|O0T-t4[XF|O0T-t4[9F|O0T-t4@Pk|O0T-t4@PkvT|O0T-t4[9N|O0T-t4@Tq|O0T-t4[8s|O0T-t4[AT|O0T-t4[",
    "GW|O0T-t4[MQ|O0T-t4@8o[DE|O0T-t4@+k|O0T-t4[8z|O0T-t4+g|O0T-t4[1J|O0T-t4ub[ED|O0T-t4ub[ET|O0T-t4@",
    "8K|O0T-t4@Pg|O0T-t4[Fj|O0T-t4ub|O0T-t4[1)|O0T-t4@93|O0T-tb@Pn@8Z|O0T-tb@9J|O0T-tb@V*|O0T-tb[e%|O",
    "0T-tb@8_|O0T-tb[Cb|O0T-tb[DY|O0T-tb@=Y|O0T-tb[8q|O0T-tb@:p|O0T-tb[Gh[A9@O*|O0T-tb[F&@8f|O0T-tb@O",
    "u|O0T-tb[L2|O0T-tb[Cn|O0T-tb:S@wp-(Y|O0T-tb[1S|O0T-tb@=X|O0T-tb[1M|O0T-tbxJ[A+|O0T-tb[G%|O0T-tb[",
    "8x|O0T-tb[Fk|O0T-tb@8f|O0T-tb[h7|O0T-tb[2e|O0T-tb@2R|O0T-tb@AI|O0T-tb[Cg|O0T-tb[XH|O0T-tb@P$|O0T",
    "-tb@UL[hc|O0T-tb[Vt|O0T-tb[DJ@39|O0T-tb[di|O0T-tb[B=|O0T-tbub[1K|O0T-tb@P=|O0T-tb[DO|O0T-tb@8E|O",
    "0T-tb[8u|O0T-tb[9V|O0T-tb[Fy|O0T-tb[X^|O0T-tb[DM|O0T-tb@K@|O0T-tb[Cc|O0T-tb[Fi|O0T-tb[Fl|O0T-tb@",
    "v[|O0T-tb[dg|O0T-tb[8r|O0T-tb!7|O0T-tb@96|O0T-tbwF|O0T-tb[Yy|O0T-tb[Fv@93|O0T-tb[EB|O0T-tb+u|O0T",
    "-tb@92|O0T-tb@Oi|O0T-tb[8w|O0T-tb!u|O0T-tb@2i|O0T-tb@Px|O0T-tb@93|O0T-tb[fn|O0T-tb[DL|O0T-tb[Fs|",
    "O0T-tb[Fx|O0T-tb@87@P%|O0T-tb[Fu|O0T-tb@PU|O0T-tbub@P:|O0T-tb=D|O0T-tb@8.|O0T-tb[T4|O0T-tb[SB|O0",
    "T-tb@8e|O0T-tb@8Z|O0T-tb@Os|O0T-tb[1R|O0T-tb[8t|O0T-tb@M$|O0T-tb:S[K!|O0T-tb@V.|O0T-tb@Py|O0T-tb",
    "@O?|O0T-tb@P8|O0T-tb@Sv|O0T-tb:F@NZ|O0T-tb:F@+S|O0T-tb[D2|O0T-tb@PP|O0T-tb[4x|O0T-tb@R1|O0T-tb:k",
    "|O0T-tb.D|O0T-tV[8y|O0T-tV@VS|O0T-tV:b|O0T-tV*k|O0T-tV[EG|O0T-tV[4Z|O0T-tV[EE|O0T-tV[Fm|O0T-tV[D",
    "B|O0T-tV@39|O0T-tV[fg|O0T-tV[Dh|O0T-tV@3%|O0T-tV[DX|O0T-tV[1L|O0T-tV[X[|O0T-tV[Sn|O0T-tV[E9|O0T-",
    "tV@Tq|O0T-tV+u|O0T-tV[gq|O0T-tV[2#|O0T-tV@SU|O0T-tV[9L|O0T-tV[Cd|O0T-tV[82|O0T-tV@8o|O0T-tV[SC|O",
    "0T-tV@0m|O0T-tV[EC|O0T-tV[1O[8v|O0T-tV[Db|O0T-tVz+|O0T-tV@LR|O0T-tV[Dj|O0T-tV@+j|O0T-tV@8:|O0T-t",
    "V[9d|O0T-tV[4J|O0T-tV[Co|O0T-tV[AO|O0T-tV[9Z|O0T-tV[Mf|O0T-tV[9b|O0T-tV[9O|O0T-tV&k|O0T-tV[Fq|O0",
    "T-tV:S|O0T-tV[30|O0T-tV@9H|O0T-tV@U9|O0T-tV@Ae|O0T-tV@V.|O0T-tV@M$|O0T-tV[OJ|O0T-tV[Xu|O0T-tV[Da",
    "|O0T-tV[9J|O0T-tV[Fr|O0T-tV[1P|O0T-tV@R2|O0T-tV[Kd|O0T-tV[Gp|O0T-tV@8K|O0T-tV@Pg|O0T-tV[9M|O0T-t",
    "V[DR|O0T-tV[hh|O0T-tV$O|O0T-tV@V+|O0T-tV@PU|O0T-tV@37|O0T-tV[Vr|O0T-tV@NF|O0T-tV[DH|O0T-tV[Dd|O0",
    "T-tV@U#|O0T-tV@O*|O0T-tV[2)|O0T-tV[Ft|O0T-tV[X@|O0T-tV[7&|O0T-tV[DC|O0T-tV[4K|O0T-tV[DN|O0T-tV@9",
    "B|O0T-tV@P$|O0T-tV@LT|O0T-tVz]|O0T-tV@3qe|O0T-tV@A?|O0T-tV@US|O0T-tV%v|O0T-tV@3r|O0T-tV@Nd|O0T-t",
    "V@8l|O0T-tVuz|O0T-tV@49|O0T-tVx]|O0T-tV@3(|O0T-tV@St|O0T-tV@2m|O0T-tVzC|O0T-tV%W|O0T-tV@9C|O0T-t",
    "V)q|O0T-tVyU|O0T-tV@AP|O0T-tV[MU|O0T-tV@PB|O0T-tV@2y|O0T-tV@3q?d|O0T-tV!#|O0T-tV@P@|O0T-tV:SuB|O",
    "0T-tV[Ra|O0T-tV@1(|O0T-f@8.|O0T-f[Z2|O0T-f@Ou|O0T-f@8E|O0T-f[d[|O0T-f[52|O0T-f:g|O0T-f@TK|O0T-f[",
    "OZ|O0T-f[Fp|O0T-f[Cs|O0T-f@9x|O0T-f.8|O0T-f@Pm|O0T-f[2g|O0T-f@Vk|O0T-f*(|O0T-f@Pi|O0T-f@Qg|O0T-f",
    ":]|O0T-f@87|O0T-f@N#|O0T-f@P.|O0T-f@Pq|O0T-f@8Y|O0T-f[Dc|O0T-f[Dl|O0T-f[Fn|O0T-f[PF|O0T-f@Py|O0T",
    "-f[KC|O0T-f@3u|O0T-f[DQ|O0T-f@O+|O0T-f@=h|O0T-f[DZ|O0T-f@Pw|O0T-f?X|O0T-f@N$|O0T-f[DD|O0T-f[Ck|O",
    "0T-f[XL@37|O0T-f)z|O0T-f[MM|O0T-f@2^[U1|O0T-f[DK@39|O0T-f[hD|O0T-f@=g|O0T-f[a5|O0T-f[h4|O0T-f$P|",
    "O0T-f[aC|O0T-f[1I|O0T-f[Vs|O0T-f@UA|O0T-f[df|O0T-f[f4|O0T-f@8C|O0T-f&J|O0T-f[XG|O0T-f@=T|O0T-f[D",
    "7|O0T-f[So|O0T-f[9Y|O0T-f@2%|O0T-f[Gz|O0T-f[Eg|O0T-f@:r|O0T-f@0Z|O0T-f[2v|O0T-f@Vt|O0T-f%v@y=|O0",
    "T-f@B&|O0T-f[9K|O0T-f[Cf|O0T-f[K$|O0T-f[hd|O0T-f[4I|O0T-f@K@|O0T-f@:s|O0T-f[Di|O0T-f+u|O0T-f@Oh|",
    "O0T-f[DW|O0T-f@=b|O0T-fyd|O0T-f[F)|O0T-f[Kc|O0T-f[h6|O0T-f[DG|O0T-f%v!k|O0T-f[H0|O0T-f[Le|O0T-f@",
    "O?|O0T-f@.T|O0T-f@PK|O0T-f@P8|O0T-f@LT|O0T-f)bt6|O0T-f[B8|O0T-f[MH|O0T-f[Dg|O0T-f@2i|O0T-f[K(|O0",
    "T-f@36|O0T-f[h5|O0T-f[DP|O0T-ftr@Q$|O0T-f)b@5=|O0T-f@74|O0T-f?p|O0T-fF|O0T-f@US|O0T-ft1|O0T-ft6|",
    "O0T-f[3)|O0T-ftr[LN|O0T-f.5|O0T-f[Xd|O0T-f@2^@PH:5|O0T-f@Sv|O0T-f[h9|O0T-f[Dp|O0T-f[ha|O0T-f@4q[",
    "WD|O0T-f@4q@6I|O0T-f@B)|O0T-f[hf|O0T-f@M%|O0T-f@9i|O0T-f?p@)$|O0T-f@RU|O0T-f@Bv|O0T-f+g|O0T-f+9|",
    "O0T-f!u|O0T-fy]|O0T-f@9[|O0T-f:p|O0T-f[Dq|O0T-fw9|O0T-f(R|O0T-f@AP|O0T-f)b[O#|O0T-fue|O0T-fxi|O0",
    "T-f@2y|O0T-fz#|O0T-f(F|O0T-fub|O0T-f@On|O0T-f[X?|O0T-fzS|O0T-f&8|O0T-fvv|O0T-f@+O|O0T-f@=l|O0T-u",
    "Vtd|O0T-uVn|O0T-uVz]|O0T-uVyX|O0T-uV@02|O0T-uV@A?|O0T-uV%v|O0T-uVuw|O0T-uV@3r|O0T-uV@S0|O0T-uV@8",
    "l|O0T-uV.5|O0T-uV@2^|O0T-uV@96|O0T-uVuz|O0T-uV@49|O0T-uV@3(|O0T-uV!9|O0T-uV@AI|O0T-uV@2m|O0T-uV+",
    "u|O0T-uV@P]|O0T-uVzC|O0T-uV@P#|O0T-uV@4q|O0T-uV%W|O0T-uVuY|O0T-uV@9A|O0T-uV@9i|O0T-uV@9C|O0T-uV@",
    "Bv|O0T-uV)q|O0T-uV!7|O0T-uVyU|O0T-uV@9[|O0T-uV:F|O0T-uV@Po|O0T-uV?m|O0T-uV(R|O0T-uV@9x|O0T-uV@74",
    "|O0T-uVv#|O0T-uVw!|O0T-uV@2y|O0T-uVz#|O0T-uV@Ot|O0T-uV@3q|O0T-uVub|O0T-uVz$|O0T-uV:S|O0T-uV.D|O0",
    "T-uV?S|O0T-uV@SR|O0T-uV[e5|yS0uq|yS0@32|yS0xX|yS0@2+|yS0vS|yS0u=|yS0F|yS0!.|yS0@M*|yS0@@F|yS0@$)",
    "|yS0@1S|yS0[13|yS0x(|yS0@8Y|yS0@95|yS0tr|yS0x.|yS0t1|yS0zg|yS0:y|yS0[Y9|yS0@6v|yS0v#|yS0f|yS0z#|",
    "yS0@NQ|yS0uw|yS0@?_|yS0#D|yS0[Xy|ySEvV|ySEt0|ySEt3|ySEtC|ySEtQ|ySEtX|ySEt=|ySEuB|ySEt?|ySEuF|ySz",
    "z|ySizz|vg0[I)|vg0[IH|vg0@9Q|vg0@3I|vg0@Hp|vg0@0?|vg0=T|vg0@Hm|vg0[eK|vg0[dU|vg0[e3|vg0[eE|vg0=$",
    "|vg0=y|vg0@)%|vg0@1&|vg0@_J|vg0@7l|vg0@7w|vg0@MW|vg0[cC|vg0@4U|vg0[b(|vg0[cA|vg0@r9|vg0@r6|vg0@r",
    "8|vg0@Hl|vg0[bg|vg0[bY|vg0[ba|vg0[bf|vg0t2#$|vg0ug@U@|vg0v:@U[|vg0v:@Hl|vg0[bR|vg0@U[|vg0[bV|vg0",
    "@U@|vg0[be|vg0[bb|vg0[bc|vg0[bd|vg0[BD|vg0@Ov|vg0[An|vg0[B9|vg0td|vg0ww|vg0v0|vg0w9|vg0up|vg0uY|",
    "vg0v#|vg0tr|vg0wy|vg0xT|vg0vS|vg0ub|vg0ue|vg0t]|vg0uw|vg0@M3|vg0uq|vg0u=|vg0uS|vg0:a|vg0wI|vg0wM",
    "|vg0z*|vg0x[|vg0@]Q|vg0x3|vg0%a|vg0yd|vg0x+|vg0wt|vg0xy|vgEvV|vgEt0|vgEt3|vgEtC|vgEtQ|vgEtX|vgEt",
    "=|vgEuB|vgEt?|vgEuF|yjy_0@)t|yjy_0td|yjy_0!h|yjy_0yd|yjy_0@2$|yjy_0@V$|yjy_0@L4|yjy_0@&B|yjy_0[2",
    "c|yjy_0(8|yjy_0@]i|yjy_0v#|yjy_0&*|yjy_0@7F|yjy_0#M|yjy_0)L|yjy_0[c9|yjy_0tG|yjy_0vS|yjy_0.I|yjy",
    "_0[h0|yjy_0tr|yjy_0[ev|yjy_0F|yjy_0t1|yjy_0x.|yjy_0n|yjy_0yX|yjy_0f|yjy_0t6|yjy_XuAti|yjy_Xt_ti|",
    "yjy_X(Gti|yjy_Xt_-(Gti|yjy_XuA-t_ti|yjy_xhwJ|uUthH[15|uUthH[18|uUthH[1t|uUthH[1[|uUthH[0:|uUthH[",
    "0@|uUthH[2u|uUthH[2[|uUthH[14|uUthH[1U|uUthH[0l|uUthH[0n|uUthH[2P|uUthH[2S|uUthH[0]|uUthH[0_|uUt",
    "hH[2s|uUthH[2t|uUthH[2H|uUthH[2Z|uUthH[1r|uUthH[1s|uUthH@Mo|uUthH[0[|uUthH[32|uUthH[35|uUthH[0Z|",
    "uUthH[0g|uUthvi[dR|uUthvi[F%|uUthvi[3?|uUthvixE|uUthvi[E%|uUthvi[Of|uUthvi[Ee|uUthvi[M@|uUthvi[g",
    ".|uUthvi@[5|uUthvi[8f|uUthvi@x*|uUthvi[CV|uUthvi@[&|uUthvi[LG|uUthvi[Fz|uUthvi[B[|uUthviwA|uUthv",
    "i[f)|uUthvi@x9|uUthj$#[a7|uUthj$#zV|uUthj$#[1H|uUthj$#[1b|uUthj$#[Vu|uUthj$#@]A|uUthj$#[Xj|uUth1",
    ".H[YO|uUth1.H[Zy@xb|uUth1$#@x=|uUth1.H[YF|uUth1.H@+Z|uUth1@4l[F+|uUth1@4l!Q|uUth1@4l[Z9|uUth1@4l",
    "@+E|uUth1.H[R?|uUth1@Oz[Vq|uUth1.H[FV|uUth1@7k@Vr|uUth1[f*|uUth1$#[Z%@A0|uUthEvV|uUthEt0|uUthEt3",
    "|uUthEtC|uUthEtQ|uUthEtX|uUthEt=|uUthEuB|uUthEt?|uUthEuF|uUthV(W|uUthV@7i|uUthVvv+3|uUthV+!|uUth",
    "VuE+!|uUthVvv@v9|uUthV[ZX|uUth1.H[5F|uUth1[gP|uUth1@7d|uUth1%%-[V8@7d|uUth1[jK[Y3|uUth1@]2|uUth1",
    "[FI|uUth1[f@|uUth1[F(|uUth1.U|uUth1[aa@xc|uUth1@Oz[Zw|uUth1$W|uUth1[56|uUth1[B0|uUth1$#@@1[5R@P?",
    "@P?|uUth1$#@#K[Z!|uUth1$#@U+|uUth1$#@U+@yk|uUth1$#[MI@%5|uUth1$#[FO[Z6|uUth#s1[Zz|uUth#s1[g_|uUt",
    "h#s1@Nv|uUth#s1[3[|uUth#s1[gQ|uUth#s1?Q|uUth#s1@@P|uUth#s1[At|uUth#s1[YN|uUth#s1[Zv|uUth#s1[Ki|u",
    "Uth#s1[1W|uUth#s1@@6|uUth#s1[dD|uUth#s1@+I|uUth#s1@Bz|uUth#s1[Z)|uUth#s1[33|uUth#s1[eD|vY50uz|vY",
    "50tt|vY50v5|vY50v(|vY50@Hh|vY50vR|vY50@N7|vY50vQ|vY50u]|vY50u[|vY50uV|vY50t6|vY50v3|vY50F|vY50vt",
    "|vY50f|vY50t4|vY50tb|vY50n|vY50xJ|vY50t+|vY50x6|vY50@2F|vY50@Q7|vY50vj|vY50tV|vY50yM|vY50u5|vY50",
    "tu|vY50t1|vY50v*|vY50u?|vY30uz|vY30tt|vY30v5|vY30v(|vY30@Hh|vY30vR|vY30@N7|vY30vQ|vY30u]|vY30u[|",
    "vY30uV|vY30t6|vY30v3|vY30F|vY30vt|vY30f|vY30t4|vY30tb|vY30n|vY30xJ|vY30t+|vY30x6|vY30@2F|vY30@Q7",
    "|vY30vj|vY30tV|vY30yM|vY30u5|vY30tu|vY30t1|vY30v*|vY30u?|vYEvV|vYEt0|vYEt3|vYEtC|vYEtQ|vYEtX|vYE",
    "t=|vYEuB|vYEt?|vYEuF|vYVvv|vYV&1|vYV%2|vYV+1|vYV*S|vYV(1|vYV)3|vYV*)|vYV)V|vYV*p|vYEt0yhG|vYEt3y",
    "hG|vYEtCyhG|vYx0|vYxhwJ|vYB@pF|vY!n?v|u10tr|u10vS|u109tr|u10@3V|u10ub|u10@O.|u10yiub|u10yd|u10xU",
    "|u10[dl|u10uq|u10u=|u109xr|u109uq|u10xr|u10xs|u10ue|u10:a|u109yI|u10yiue|u10yI|u10[E[|u10uw|u10[",
    "5V|u10*d|u10[4U|u10@BF|u10@&!|u10[Y*|u10@&#|u10td|u10v0|u109td|u10#%|u10[M:|u10w9|u10@Pl|u10yiw9",
    "|u10t]|u10%a|u10x[|u10@7K|u10[Z&|u10@(k|u10wy|u10@QA|u10%Y|u10=x|u109%Y|u109=x|u10)v%Y|u10wI|u10",
    "yt|u10#b|u10[j9|u10z*|u10%_|u109z*|u10up|u10xy|u10[j8|u10@4x|u10[jg|u10yi@4x|u10[jn|u10[jh|u10v#",
    "|u10&R|u10)f|u10@vt|u10[WL|u10@(j|u10xv|u10%(|u10[P)|u11vit8u0|u10@8)|u11@He|u11)v@VM|u11)v@He|u",
    "1H1F|u1H1ve|u1H1@p6|u1H1yz|u1H1%:|u1H1t1|u1H1x.|u1H1zj|u1H1v(|u1H1f|u1H1xM|u1H1&b|u1H1[IP|u1H1t6",
    "|u1H1@2H|u1H1@MD|u1H1@^L|u1H1@7v|u1H1$n|u1H1v]|u1H1?E|u1H1@7q|u1H1n|u1H1=2|u1H1[bI|u1H1[bJ|u1H1w",
    "L|u1H1[bT|u1H1[bs|u1H1u?|u1H19|u1H1z0|u1H1@G^|u1H1@1%|u1H1%U@1%|u1H1%G|u1H1%U%G|u1H1v*|u1H1)U|u1",
    "H1wA|u1H1*v|u1H1u5|u1H1#$|u1H1[bz|u1H1[he|u1H1[IR|u1H1[IO|u1H1[eB|u1H1@MH|u1H1@6v|u1H1@_1|u1H1@4",
    "W|u1tiZ|u1tixxZ|u1tig|u1tit9|u10ti-um|u10ti-vo|u10ti-wk|u10ti-x4|u10ti-y3|u10ti-zP|u10ti-#*|u10)",
    "vti-v)|u10)vti-um|u10)vti-wk|u10)vti-x4|u10)vti-y3|u10)vti-#*|J)ij|[GS)ij|e(otWj|e(o)ij|[1f3uh(3",
    "|@VHyh@RyjwM|@VHyh@Ryj[D!|JI-@WM|JI-@WN|JI-@B_|JI-@WO|JI-@WP|JI-@WQ|JI-@WR|JI-@WS|JI-@WT|JI-@WU|",
    "JI-@WV|JI-@WW|JI-@WX|JI-@WY|JI-@WZ|JI-@Wa|JI-@Wb|JI-@Wc|JI-@Wd|JI-@C0|JI-@C1|JI-@We|JI-@Wf|JI-@W",
    "g|JI-@C2|JI-@Wh|JI-@Wi|JI-@Wj|JI-@Wk|JI-@C3|JI-@Wl|JI-@Wm|JI-@Wn|JI-@Wo|JI-@Wp|JI-@Wq|JI-@Wr|JI-",
    "@Ws|JI-@Wt|JI-@Wu|JI-@Wv|JI-@Ww|JI-@Wx|JI-@Wy|JI-@Wz|JI-@W!|JI-@W#|JI-@W$|JI-@W%|JI-@4y|JI-@C4|J",
    "I-@W&|JI-@W(|JI-@W)|JI-@W*|JI-@W+|JI-@W.|JI-@W:|JI-@W=|JI-@W?|JI-@W@|JI-@C5|JI-@W[|JI-@W]|JI-@W^",
    "|JI-@W_|JI-@X0|JI-@X1|JI-@X2|JI-@X3|JI-@X4|JI-@X5|JI-@X6|JI-@X7|JI-@X8|JI-@X9|JI-@XA|JI-@XB|JI-@",
    "4z|JI-@C6|JI-@4!|JI-@XC|JI-@XD|JI-@XE|JI-@XF|JI-@XG|JI-@XH|JI-@XI|JI-@XJ|JI-@XK|JI-@XL|JI-@C7|JI",
    "-@XM|JI-@XN|JI-@XO|JI-@XP|JI-@XQ|JI-@XR|JI-@XS|JI-@C8|JI-@C9|JI-@4#|JI-@CA|JI-@CB|JI-@CC|JI-@CD|",
    "JI-@CE|JI-@CF|JI-@CG|JI-@CH|JI-@CI|JI-@CJ|JI-@CK|JI-@CL|JI-@CM|JI-@CN|JI-@CO|JI-@CP|JI-@CQ|JI-@C",
    "R|JI-@CS|JI-@CT|JI-@0s|JI-@0t|JI-@0u|JI-@0v|JI-@4$|JI-@4%|JI-@Ce|JI-@4&|JI-@Cf|JI-@Cg|JI-@Ch|JI-",
    "@0w|JI-@4(|JI-@0x|JI-@4)|JI-@4*|JI-@Cn|JI-@Co|JI-@Cp|JI-@4+|JI-@Cq|JI-@Cr|JI-@0y|JI-@0z|JI-@4.|J",
    "I-@4:|JI-@Ct|JI-@Cu|JI-@Cv|JI-@Cw|JI-@Cx|JI-@Cy|JI-@Cz|JI-@0!|JI-@4=|JI-@4?|JI-@C!|JI-@C#|JI-@C$",
    "|JI-@C%|JI-@C&|JI-@C(|JI-@C)|JI-@C*|JI-@4@|JI-@4[|JI-@C+|JI-@C.|JI-@C:|JI-@C=|JI-@C?|JI-@C@|JI-@",
    "C[|JI-@C]|JI-@C^|JI-@4]|JI-@C_|JI-@D0|JI-@D1|JI-@D2|JI-@D3|JI-@D4|JI-@D5|JI-@D6|JI-@D7|JI-@D8|JI",
    "-@D9|JI-@DA|JI-@DB|JI-@DC|JI-@DD|JI-@DE|JI-@DF|JI-@DG|JI-@DH|JI-@DI|JI-@DJ|JI-@DK|JI-@DL|JI-@DM|",
    "JI-@DN|JI-@DO|JI-@DP|JI-@DQ|JI-@DR|JI-@DS|JI-@DT|JI-@50|JI-@DU|JI-@DV|JI-@DW|JI-@DX|JI-@DY|JI-@D",
    "Z|JI-@Da|JI-@Db|JI-@51|JI-@52|JI-@Dd|JI-@De|JI-@Df|JI-@Dg|JI-@53|JI-@Dh|JI-@Di|JI-@54|JI-@Dj|JI-",
    "@Dk|JI-@Dl|JI-@Dm|JI-@Dn|JI-@0$|JI-@0%|JI-@0&|JI-@55|JI-@0(|JI-@Ds|JI-@Dt|JI-@Du|JI-@Dv|JI-@Dw|J",
    "I-@Dx|JI-@0)|JI-@56|JI-@57|JI-@58|JI-@Dz|JI-@D!|JI-@D#|JI-@D$|JI-@D%|JI-@D&|JI-@D(|JI-@0+|JI-@D)",
    "|JI-@D*|JI-@Y)|JI-@Y*|JI-@Y+|JI-@Y.|JI-@Y:|JI-@Y=|JI-@D+|JI-@D.|JI-@D:|JI-@D=|JI-@Y@|JI-@Y[|JI-@",
    "Y]|JI-@Y^|JI-@Y_|JI-@Z0|JI-@Z1|JI-@Z2|JI-@Z3|JI-@D?|JI-@Z4|JI-@Z5|JI-@Z6|JI-@Z7|JI-@Z8|JI-@Z9|JI",
    "-@ZA|JI-@ZB|JI-@ZC|JI-@ZD|JI-@ZE|JI-@ZF|JI-@ZG|JI-@ZH|JI-@ZI|JI-@ZJ|JI-@ZK|JI-@ZL|JI-@ZM|JI-@ZN|",
    "JI-@ZO|JI-@ZP|JI-@ZQ|JI-@ZR|JI-@ZS|JI-@ZT|JI-@ZU|JI-@ZV|JI-@ZW|JI-@ZX|JI-@ZY|JI-@Za|JI-@Zb|JI-@Z",
    "c|JI-@Zd|JI-@Ze|JI-@Zf|JI-@Zg|JI-@Zh|JI-@Zi|JI-@Zj|JI-@Zk|JI-@Zl|JI-@Zm|JI-@Zn|JI-@Zo|JI-@Zp|JI-",
    "@Zq|JI-@Zr|JI-@Zs|JI-@Zt|JI-@Zv|JI-@Zw|JI-@Zx|JI-@Zy|JI-@Zz|JI-@Z!|JI-@Z#|JI-@Z$|JI-@Z%|JI-@Z&|J",
    "I-@Z(|JI-@Z)|JI-@Z*|JI-@D_|JI-@Z+|JI-@5B|JI-@5C|JI-@5D|JI-@5E|JI-@a1|JI-@a2|JI-@a3|JI-@a4|JI-@a5",
    "|JI-@a6|JI-@a7|JI-@5G|JI-@E1|JI-@E2|JI-@aC|JI-@aD|JI-@aE|JI-@aF|JI-@aG|JI-@aH|JI-@aI|JI-@aJ|JI-@",
    "E3|JI-@E4|JI-@aL|JI-@aM|JI-@aN|JI-@aO|JI-@aP|JI-@aQ|JI-@aR|JI-@aS|JI-@aT|JI-@E5|JI-@aU|JI-@aV|JI",
    "-@aW|JI-@aX|JI-@E6|JI-@E7|JI-@aY|JI-@aZ|JI-@aa|JI-@ab|JI-@ac|JI-@E8|JI-@ad|JI-@ae|JI-@af|JI-@ag|",
    "JI-@ah|JI-@ai|JI-@aj|JI-@ak|JI-@al|JI-@am|JI-@an|JI-@ao|JI-@ap|JI-@aq|JI-@ar|JI-@as|JI-@at|JI-@a",
    "u|JI-@av|JI-@ax|JI-@ay|JI-@az|JI-@a!|JI-@a#|JI-@a$|JI-@a%|JI-@a&|JI-@a(|JI-@a)|JI-@a*|JI-@a+|JI-",
    "@a.|JI-@a:|JI-@a=|JI-@a?|JI-@a@|JI-@a[|JI-@a]|JI-@a^|JI-@a_|JI-@b0|JI-@b1|JI-@b2|JI-@b3|JI-@b4|J",
    "I-@b5|JI-@b6|JI-@b7|JI-@b8|JI-@bA|JI-@EC|JI-@bB|JI-@bC|JI-@bD|JI-@bE|JI-@bF|JI-@bG|JI-@bH|JI-+J|",
    "JI-@ED|JI-@bI|JI-@bJ|JI-@bK|JI-@bL|JI-@bM|JI-@5K|JI-@5L|JI-@EE|JI-@bR|JI-@bS|JI-@bT|JI-@bU|JI-@b",
    "V|JI-@bW|JI-@bX|JI-@bY|JI-@EF|JI-@EG|JI-@ba|JI-@EH|JI-@bb|JI-@bc|JI-@bd|JI-@be|JI-@bf|JI-@bg|JI-",
    "@bh|JI-@EI|JI-@bi|JI-@bj|JI-@bk|JI-@bl|JI-@EJ|JI-@bm|JI-@bn|JI-@bo|JI-@bp|JI-@bq|JI-@br|JI-@EL|J",
    "I-@bs|JI-@EM|JI-@EN|JI-@bt|JI-@EO|JI-@bu|JI-@bv|JI-@bw|JI-@bx|JI-@b#|JI-@b$|JI-@b%|JI-@b&|JI-@b(",
    "|JI-@b)|JI-@b*|JI-@b+|JI-@b.|JI-@b:|JI-@b=|JI-@b?|JI-@b@|JI-@b[|JI-@b]|JI-@b^|JI-@b_|JI-@c0|JI-@",
    "c1|JI-@c3|JI-@c4|JI-@c5|JI-@c7|JI-@c8|JI-@c9|JI-@cB|JI-@cC|JI-@cD|JI-@cF|JI-@cG|JI-@cI|JI-@cJ|JI",
    "-@cK|JI-@cL|JI-@cM|JI-@cN|JI-@cO|JI-@cP|JI-@cQ|JI-@cR|JI-@cU|JI-@cW|JI-@cX|JI-@cY|JI-@ca|JI-@cb|",
    "JI-@cc|JI-@cd|JI-@ce|JI-@cf|JI-@ER|JI-@ch|JI-@ci|JI-@cj|JI-@ck|JI-@cl|JI-@cm|JI-@cn|JI-@co|JI-@c",
    "p|JI-@cr|JI-@cs|JI-@ct|JI-@cu|JI-@cv|JI-@cw|JI-@cx|JI-@ES|JI-@ET|JI-@cz|JI-@c!|JI-@c#|JI-@c$|JI-",
    "@c%|JI-@c&|JI-@c(|JI-@c)|JI-@c*|JI-@EV|JI-@c+|JI-@c.|JI-@c:|JI-@c=|JI-@c?|JI-@c@|JI-@c[|JI-@c]|J",
    "I-@c^|JI-@c_|JI-@d0|JI-@d3|JI-@d4|JI-@d6|JI-@d8|JI-@d9|JI-@dA|JI-@dB|JI-@dC|JI-@dD|JI-@dE|JI-@dK",
    "|JI-@dL|JI-@dM|JI-@dN|JI-@dO|JI-@dP|JI-@dQ|JI-@dR|JI-@EX|JI-@dS|JI-@dU|JI-@dV|JI-@dW|JI-@dX|JI-@",
    "dY|JI-@dZ|JI-@da|JI-&Q|JI-@db|JI-@dc|JI-@de|JI-@df|JI-@dg|JI-@dh|JI-@di|JI-@dk|JI-@dl|JI-@dm|JI-",
    "@dn|JI-@do|JI-@dr|JI-@dt|JI-@du|JI-@dv|JI-@dw|JI-@dx|JI-@EZ|JI-@dz|JI-@d!|JI-@d#|JI-@d%|JI-@d&|J",
    "I-@d(|JI-@d)|JI-@d*|JI-@d+|JI-@d.|JI-@d:|JI-&.|JI-@d=|JI-@d@|JI-@d[|JI-@d]|JI-@d^|JI-@d_|JI-@e0|",
    "JI-@e2|JI-@e3|JI-@e4|JI-@e5|JI-@e9|JI-@eA|JI-@eB|JI-@eD|JI-@eE|JI-@eF|JI-@eG|JI-@eH|JI-@Ea|JI-@e",
    "I|JI-@eJ|JI-@eM|JI-@eN|JI-@eP|JI-@eQ|JI-@eR|JI-@eS|JI-@eT|JI-@Ec|JI-@eU|JI-@eV|JI-@eW|JI-@eX|JI-",
    "@eY|JI-@eZ|JI-@ea|JI-@eb|JI-@ec|JI-@ed|JI-@ee|JI-@eg|JI-@eh|JI-@ei|JI-@ej|JI-@ek|JI-@el|JI-@em|J",
    "I-@en|JI-@eo|JI-@ep|JI-@et|JI-@eu|JI-@ev|JI-@ew|JI-@ex|JI-@ey|JI-@ez|JI-@e!|JI-@e#|JI-@e$|JI-@e(",
    "|JI-@e)|JI-@e*|JI-@e.|JI-@e:|JI-@e=|JI-@e?|JI-@e@|JI-@e[|JI-@e]|JI-@e_|JI-@f0|JI-@f1|JI-@f2|JI-@",
    "Ee|JI-@f3|JI-@f4|JI-@f5|JI-@f6|JI-@f7|JI-@f9|JI-@fA|JI-@fB|JI-@fC|JI-@fD|JI-@fE|JI-@fF|JI-@fG|JI",
    "-@fH|JI-@fI|JI-@fK|JI-@fL|JI-@fM|JI-@fN|JI-@fO|JI-@fP|JI-@fQ|JI-@fR|JI-@fS|JI-@Ef|JI-@fU|JI-@fV|",
    "JI-@fX|JI-@fY|JI-@fa|JI-@fb|JI-@fc|JI-@fd|JI-@fe|JI-@ff|JI-@fh|JI-@fi|JI-@fj|JI-@fk|JI-@fl|JI-@f",
    "m|JI-@fn|JI-@fo|JI-@fp|tO0&7ti-um|tO0&7ti-vo|tO0&7ti-wk|tO0&7ti-x4|tO0&7ti-zP|tO0&7ti-#*|tO0&7+$",
    "ti-v)|tO0&7+$ti-um|tO0&7+$ti-vo|tO0&7+$ti-wk|tO0&7+$ti-x4|tO0&7+$ti-zP|tO0&7+$ti-#*|tO0yif|u^0yi",
    "#o|tF0F-v)|tF0F-um|tF0F-vo|tF0F-zj|tF0t6-v)|tF0t6-um|tF0t6-vo|tF0t6-wk|tF0n-v)|tF0n-um|tF0n-vo|t",
    "F0n-wk|tF0n-x4|tF0f-um|tF0f-vo|tF0f-wk|tF0f-x4|tF0f-y3|tF0t1-v)|tF0t1-um|tF0t1-vo|tF0td-v)|tF0td",
    "-um|tF0td-vo|tF0td-wk|tF0td-x4|tF0td-y3|tF0td-zP|tF0td-#*|tF0td-%6|tF0td-+F|tF0td-)]|tF0td-!O|tF",
    "0zS-v)|tF0zS-um|tF0zS-vo|tF0zS-wk|tF0zS-x4|tF0zS-y3|tF0zS-zP|tF0zS-#*|tF0z]-v)|tF0z]-um|tF0z]-vo",
    "|tF0z]-wk|tF0z]-x4|tF0z]-y3|tF0z]-zP|tF0!O-v)|tF0!O-um|tF0!O-vo|tF0!O-wk|tF0!O-x4|tF0!O-y3|tF0z#",
    "-v)|tF0z#-um|tF0z#-vo|tF0z#-zS|tF0up-v)|tF0up-um|tF0up-vo|tF0up-wk|tF0up-x4|tF0up-y3|tF0up-zP|tF",
    "0up-#*|tF0!9-v)|tF0!9-um|tF0!9-vo|tF0!9-wk|tF0!9-x4|tF0!9-y3|tF0z)-v)|tF0z)-um|tF0z)-vo|tF0z)-wk",
    "|tF0z)-x4|tF0z)-y3|tF0z)-zP|tF0z)-#*|tF0!h-v)|tF0!h-um|tF0!h-vo|tF0!h-wk|tF0!h-x4|tF0zV-v)|tF0zV",
    "-um|tF0zV-vo|tF0zV-wk|tF0zV-x4|tF0zV-y3|tF0zV-zP|tF0uq-v)|tF0uq-um|tF0uq-vo|tF0uq-wk|tF0!#-v)|tF",
    "0!#-um|tF0!#-vo|tF0!#-wk|tF0!#-x4|tF0!#-y3|tF0!#-zP|tF0z+-v)|tF0z+-um|tF0z+-vo|tF0z+-wk|tF0z+-tG",
    "|tF0xv-v)|tF0xv-um|tF0xv-vo|tF0xv-wk|tF0xv-x4|tF0xv-y3|tF0xv-zP|tF0xv-#*|tF0xv-%6|tF0tG-v)|tF0tG",
    "-um|tF0tG-vo|tF0tG-wk|tF0tG-x4|tF0tG-y3|tF0tG-uS|tF0ue-v)|tF0ue-um|tF0ue-vo|tF0ue-wk|tF0ue-x4|tF",
    "0ue-y3|tF0ue-zP|tF0ue-#*|tF0ue-%6|tF0yU-v)|tF0yU-um|tF0yU-vo|tF0yU-wk|tF0yU-x4|tF0yU-y3|tF0yU-zP",
    "|tF0yU-xv|tF0zC-v)|tF0zC-um|tF0zC-vo|tF0yT-v)|tF0yT-um|tF0yT-vo|tF0yT-wk|tF0yT-x4|tF0yT-y3|tF0yT",
    "-z#|tF0xo-v)|tF0xo-um|tF0xo-vo|tF0xo-wk|tF0xo-x4|tF0t]-v)|tF0t]-um|tF0t]-vo|tF0t]-wk|tF0t]-x4|tF",
    "0t]-y3|tF0t]-zP|tF0t]-#*|tF0t]-%6|tF0t]-+F|tF0t]-)]|tF0yG-v)|tF0yG-um|tF0yG-vo|tF0yG-wk|tF0yG-x4",
    "|tF0yG-y3|tF0yG-zP|tF0$m-v)|tF0$m-um|tF0$m-vo|tF0x#-v)|tF0x#-um|tF0x#-vo|tF0x#-wk|tF0x#-x4|tF0x#",
    "-y3|tF0x#-zP|tF0zA-v)|tF0zA-um|tF0zA-vo|tF0zA-wk|tF0zA-x4|tF0zA-y3|tF0zA-zP|tF0zA-#*|tF0ub-v)|tF",
    "0ub-um|tF0ub-vo|tF0ub-wk|tF0ub-x4|tF0ub-y3|tF0ub-zP|tF0y]-v)|tF0y]-um|tF0y]-vo|tF0y]-wk|tF0y]-x4",
    "|tF0y]-y3|tF0y]-zP|tF0x]-v)|tF0x]-um|tF0x]-vo|tF0x]-wk|tF0y[-v)|tF0y[-um|tF0y[-ub|tF0z$-v)|tF0z$",
    "-um|tF0z$-vo|tF0z$-wk|tF0z$-x4|tF0z$-y3|tF0uY-v)|tF0uY-um|tF0uY-vo|tF0uY-wk|tF0uY-x4|tF0uY-xX|tF",
    "0xJ-v)|tF0xJ-um|tF0xJ-vo|tF0xJ-wk|tF0xX-v)|tF0xX-um|tF0xX-vo|tF0xX-wk|tF0xX-x4|tF0xX-y3|tF0uS-v)",
    "|tF0uS-um|tF0uS-vo|tF0uS-wk|tF0#D-v)|tF0#D-um|tF0#D-vo|tF0#D-wk|tF0#D-x4|tF0#D-y3|tF0#D-zP|tF0!7",
    "-v)|tF0!7-um|tF0!7-vo|tF0!7-wk|tF0!7-x4|tF0!7-y3|tF0#X-v)|tF0#X-um|tF0#X-vo|tF0#X-wk|tF0zg-v)|tF",
    "0zg-um|tF0zg-vo|tF0zg-wk|tF0zg-x4|tF0zg-y3|tF0v#-v)|tF0v#-um|tF0v#-vo|tF0v#-wk|tF0v#-x4|tF0!j-v)",
    "|tF0!j-um|tF0!j-vo|tF0!j-wk|tF0!j-x4|tF0z.-v)|tF0z.-um|tF0z.-vo|tF0z.-wk|tF0zj-v)|tF0zj-um|tF0zj",
    "-vo|tF0zj-wk|tF0zj-x4|tF0zj-y3|tF0zj-zP|tF0u5-x]-z$-v)|tF0u5-x]-z$-um|u^0yi(e|tO0yi9|tO0yi#o|tO0",
    "yi(e|u^03!j|u^03z.|u^03zj|tO03!j|tO03z.|tO03zj|tO03u5|uC0vB|uC0vj|uC0vQ|uC0u]|uC0uV|uC0v3|uC0t+|",
    "uC0t4|uC0tV|uC0v5|uC0u[|uC0tu|uC0vQu5|uC0tVtt|uC0uVu5|uC0v3uz|uC0tutt|uC0%1|uC0)#@Jt|uC0@Jt|uC0@",
    "2a|uC0)#vt|uC0@[2|uC0@8M|uC0[P4|uC0uz|uC0u5|uC0vt|uC0tt|uC0uzu5|uC0u5uz|uC0vtuz|uC0ttvt|uC0uz2tA",
    "|uC0u52tA|uC0vt2tA|uC0vt2p$3Pg|uC0tt2tA|uC0tt2tAt9|uC0uztt|uC0u5tt|uC0vttt|uC0tttt|uC0uzu5tt|uC0",
    "u5uztt|uC0vtuztt|uC0ttvttt|uC0vttt2tA|uC0vtu5|uC0vtu5tt|uC0ttu]|uC0ttu]tu|uC0ttvQ|uC0ttvQtu|uC0u",
    "]tt|uC0u]tutt|uC0v(|uC0[f7|uC0v(tu|uC0ttu5|uC0ttuz|uC0v3tutt|uC0u[tutt|uC0ttv3|uC0ttv3tu|uC0F|uC",
    "0)#?!|uC0?u|uC0t1|uC0@q1|uC0t6|uC0f|uC0$n|uC0v:t6|uC0@4W|uC0yX|uC0)#(t|uC0@SAt6|uC0)#yX|uC0ugt6|",
    "uC0#o|uC0n|uC0#w|uC0@Bx|uC0nu5|uC0ugn|uC0@SAn|uC0@BZ|uC0)#n|uC0[Ic|uC0?!|uC0*v|uC0v#|uC0zj|uC0!j",
    "|uC0@VZ|uC0[fY|uC0?in|uC0?it1|uC0?it6|uC0?iF|uC0@Q)yz|uC0@Q)(i|uC0)#xM|uC0)#yz|uC0)#wi|uC0u3uz|u",
    "CzXct**&|uCzX(Gt**&|uCzXZt**&|uCzXt_tJ*&|uCzX(GtJ*&|uCzXuAtJ*&|uCzX#d*&|uCzX#dc-tG-Z*&|uCzX#d@T.",
    "|uCzX#dwK|uCzX#dftW|uCzX#dt6tW|uCzX#d@T.tW|uCzXuAv6|uCzXuA@BAv6|uCzXuAwC|uCzXuAugwC|uCzXuAtA|uCz",
    "XuAtx|uCzXuAvL|uCzXuAzW|uCzXuAtJ|uCzXt_v6|uCzXt_@BAv6|uCzXt_wC|uCzXt_ugwC|uCzXt_tA|uCzXt_tx|uCzX",
    "t_vL|uCzXt_zW|uCzXt_tJ|uCzXt_Q|uC1t12xg|uC[YG0tH|uCij|uCv1@yHxhwJ|@3+@1@0@9T|@3+@1@@!z@9T|@3+@1@",
    "t$@Aq|@3+@1@tj@Aq|tpXj=_*qtt&iwic|tpXj*qtt&iwic|tpXj@BRwic|tpXj=_*qwic|tpXj*qwic|tpXj@TZwic|tpXj",
    "+x&Gwic|tpXj&Gwic|tpXj=9wic|tpXj+x&Gtt:Hwic|tpXj&Gtt:Hwic|tpXj=9tt:Hwic|tpXj=_*qtt&iwiZ|tpXj*qtt",
    "&iwiZ|tpXj@BRwiZ|tpXj=_*qwiZ|tpXj*qwiZ|tpXj@TZwiZ|tpXj+x&GwiZ|tpXj&GwiZ|tpXj=9wiZ|tpXj+x&Gtt:Hwi",
    "Z|tpXj&Gtt:HwiZ|tpXj=9tt:HwiZ|tpXj@BRtt&i|tpXj+x&Gtt&i|tpXj@Av+x&G|tpXj&Gtt&i|tpXj&G@Av|tpXj=9tt",
    "&i|tpXj+x&G@Av|tpXj=_=9|tpXj[iY|tpXjwi|tpXj[Og|tpXj@4H|tpXj@va|tpXj[bO|tpXj[LT|tpXj[4_|tpXj[2(|t",
    "pXj[0h|tpXj[ib|tpXj[Tq|tpXj[Ok|tpXj@2fwic|tpX%&@01j[Ap|tpX%&@01j[W8|tpX%&@01j[ZO|tpXj@W0|tpXj@Jl",
    "@W0|tpXj[Iv|tpXj@9o|tpXj@9o2tJtM|tpXj@5]|tpXj@5][LZ|tpXj[IB|tpXj@TL@P+|tpXj[Y=|tpXj@(Z|tpX@q)tJ@",
    "QP|tpXj#u@QP|tpXj@2f|tpXt)%&@01zR|tp?@t8+v-um|tp?@t8+v-vo|tp?@t8@1m@K!|tp?@t8@2f|tp?@t8@A0|tpuu@",
    "ND|tpuu@ND@UI|tpuu[Jw|tpuu@(Vv5@x_|tpuu@N0|tpuu[iO|tpuu@Au|tpuu@Autt[IJ|tpuu@Q(|tpuu@Q(?k|tpuu@A",
    "u2@TL@P+|tpuu@I$|tpuu[JL|tpuu+E|tpuu=^@vb|tpuu=^@UI|tpuu=^[Ar|tpuu=^[W9|tpuu=^[ZP|tpuu+B@3c|tpuu",
    "+B@8z|tpuu+B*^|tpuu+B@4N|tpuu+B(B@3c|tpuu+B(B@8z|tpuu+B(B*^|tpuu+B(B@4N|tpuui+E|tpuuvc@I$|tpuu@%",
    "%|tpuu[1Y|tpuu@5]|tpuu@9o|tpuu(T@8z|tpuu(T*^|tpuu(T@4N|tpuu(T@4H|tpuu@Jl@N0|tpuu(T(B*^|tpuu(T@N1",
    "|tpuu(T(B@4H|tpuu(T.w@3c|tpuu(T.w*^|tpuu(T.w?k|tpuu(T.w(B|tpuu@3_|tpuu@3_tt=H|tpuu@3_[iM|tpuu@3_",
    "tt&i|tpuu@2f|tpuu@A0|tpuu+h|tpuu[2I|tpuu[j2|tpuu(V|tpuu(Vtt=H|tpuu(Vtt&i|tpuu(Vtt=Ht6&i|tpuu(Vtt",
    "&it6=H|tpuu(V@W1|tpuu(V@W1tt=H|tpuu(Vtt[PX|tpuu(Vtt@(a[iQ|tpuu(Vtt=Ht6[LS|tpuu[LY|tpuu(V?k|tpuuz",
    "O@3c|tpuuzO[Aq|tpuuzO[2o|tpuuzO[Lb|tpuuzO@3b|tpuuzO?k|tpuuzO[29|tpuuzO@N1|tpuuzO@4H[Md|tpuuzO.w|",
    "tpuuzO@(Y|tpuuzO@K2|tpuuzO.w(B|tpuuzO@K2(B|tpuuzO@252vm+E|tpuuzO.^2vm+E|tpuuzO@25|tpuuzO.^|tpuuz",
    "O.^2i+E|tpuuzO@26|tpuuzO@26@3b|tpuu?Z|tpuu?Z[Lr|tpuu?Z[2B|tpuu?Z[2A|tpuu?Z[28|tpuuzO[Zp|tpuuzO[Z",
    "q|tpuuzO[Zr|tpuu:e|tpuu:e*^|tpuu:e@4N|tpuu:e(C*^|tpuu:e(B*^|tpuu:e(B?k|tpuuzO(C|tpuuzO(C@3b|tpuu",
    "zO(C@252vm+E|tpuuzO(C.^2vm+E|tpuuzO(C@25|tpuuzO(C.^|tpuuzO(C.^2i+E|tpuuzO(C@26|tpuuzO(C@26@3b|tp",
    "uuzO(C[Zo|tpuu[2w|tpuu[IC|tpuu@(C|tpuu[C%|tpuu[J]|tNdBw2|tNdB@%1|tNdBy0|tNdB@9U@1y|tNdB@9U+Y|tNd",
    "B@Bd@1y|tNdB@Bd+Y|tNdB[0.|tNdB[WX|tNdB@9Z|tNdB@V&|tNdB@V&+Y|tNdB[2m|tNdB@HQ@1y|tNdB@6*@1y|tNdB@U",
    "1|tNdB?N|tNdB@5d|tNdB@5d+Y|tNdB[WR|tNdB[YK|tNdB@QN#?|tNdB?0#?|tNdB[ME|tNdB@xz|tNdB[dQ|tNdB@7y#?|",
    "tNdB@2U#?|tNdB?N#?|tNdB[Rm|tNdB[Jy|tNdB@Tf@q5|tNdB[I%#?|tNdB[dK#?|tNdB@HS#?|tNdB@q7|tNdB@2b|tNdB",
    "[P2|tNdB@Q]#?|tNdB[Yo|tNdB@pq|tNdB@Sd|tNdB@A.#?|tNdB@A.[97[VL|tNdB@Qf#?|tNdB@UB|tNdB[4D|tNdB@1t|",
    "tNdB[ZR|tNdB@B0|tNdB[2j|tNdB@HQ@6*!d|tNdB$H#?|tNdB@^j|tNdB@4O#?|tNdB[0*@4O|tNdB@Qz|tNdB@RT|tNdB@",
    "N4|tNdB@I&#?|tNdB[OY|tNdB@9Y#?|tNdB@9Z#?|tNdB@^O|tNdB@PO|tNdB[KY|tNdB@N4@5Y|tNdB@4O@5Y|tNdB[VY|t",
    "NdB@?Q|tNdB@7y!d|tNdB@QN!d|tNdB@9U!d|tNdB[KZ|tNdB[2Y|tNdB[Ka|tNdB[2k|tNdB@Qz!d|tNdB?N!d*2|tNdB@2",
    "U!d*2|tNdB[hY|tNdB@5d!d|tNdB@HT[WQ!d|tNdB[hX|tNdB[2l|tNdB@)Z|tNdB@xy|tNdB[9+@7y|tNdB@Bd!d|tNdB@Q",
    "]!d|tNdB@RT!d|tNdB[IV|tNdB@p^|tNdB[5W|tNdB@9Z!d|tNdB@9Y!d|tNdB@Kj@9Y|tNdB[3L|tNdB@p]|tNdB@4O!d|t",
    "NdB@)Y|tNdB@A.!d|tNdB[WW|tNdB@I&!d|tNdB@)#|tNdB@Sd!d|tNdB[g1@2b|tNdB[Zi|tNdB[MB|tNdB[Zg|tNdB[Zh|",
    "tNdB[MC|tNdB[Zj|tNdB[MD|tNdB@?9|tNdB@HZ|tNdB@Kj@HZ|tNdB@Qf!d|tNdB@UC@):|tNdB@UC@6*|tNdB@UB@HR|tN",
    "dB[YC:D@q8|tNdB[0+|tNdB@)r|tNdB@V!+t|tNdB@V!*2|tNdB@Tf|tNdB@2b*2|tNdB+Y#?|tNdB@86#?|tNdB@86@5Y|t",
    "NdB@86!d|tNdB@HS!d|tNdB=S|tNdB+Y|tNdB[ZZ|tNdB[X=|tNdB@85|tNdB:N@)u@I(|tNdB:N@1t@62|tNdB:N[ZY@62|",
    "tNdB:N[X+@62|tNdB:N@^m@I(|tNdB?0!d*2|tNdB?0?%@5e|tNdB?0?%@Jr|tNdB@1j|tNdB@1j?%@5e+t|tNdB@1j?%@5e",
    "*2|tNdB@1j?%@Jr|tNdB[ZU|tNdB@qK|tNdB@^h|tNdB@&H|tNdB)_@RE@HY|tNdB)_@qL|tNdB)_@HY|tNdB)_[9C|tNdB)",
    "_[95|tNdB)_@LY|tNdB)_@?A|tNdB)_@RE@LY|tNdB&6@RS&4|tNdB&6@HE@RS&4|tNdB&6@Js&4|tNdB&6@HE@Js&4|tNdB",
    "&6[Zb&4|tNdB&6[ZT|tNdB&6@B1&4|tNdB&6@B1@Ne&4|tNdB&6@Ne&4|tNdB&6@R8&4|tNdB@_8@U3@MF|tNdB@HT@U3@MF",
    "|tNdB@6:[X:|tNdB@6:@P0|tNdB@6:@Jw|tNdB&6[dM&4|tNdB&6[M8&4|tNdB&6@R8@B1&4|tNdB@LZu5@HR|tNdB@LZu5@",
    "&b|tNdB@)m:D$H@VO|tNdB@^i|tNdB@^k|tNdB$H#?@%=@^P|tNdB$H+Utr|tNdB$H+U@PO|tNdB$H[B?&4|tNdB$H+U$0|t",
    "NdB$H@AW@&I$0|tNdB$H+U!O|tNdB$H+U&*|tNdB$H+UyU+t|tNdB$H+UyU*2|tNdB$H@Ol@1R@Jw|tNdB$H@Ol@1R@P0|tN",
    "dB@+o@AW@1R[dN|tNdB$H@AW@1R[WN|tNdB$H[C&|tNdB@61[jL|tNdB@61[27|tNdB@61[UN|tNdB$Ht6.L@U6|tNdB$H@)",
    "l@p[|tNdB.L@Ui|tNdB+V@Ui|tNdB+V@U6|tNdB+V=S@1t*K|tNdB+V@P1@B0*K|tNdB+V@Jx@1&*K|tNdB+V@Uf@QM*K|tN",
    "dB.L=S@1t*K|tNdB.L@P1@B0*K|tNdB.L@Jx@1&*K|tNdB.L@Uf@QM*K|tNdB@LH+V|tNdB@LH.L|tNdB@1i=S[9*|tNdB@1",
    "i=S[8*|tNdB@1i+Y|tNdB@1i@0S|tNdB*+@0S|tNdB*+@0S@J#|tNdB*+@0S@Uh|tNdB*+@0S@U8|tNdB*+@15|tNdB*+@15",
    "@J#|tNdB*+@15@Uh|tNdB*+@15@U8|tNdB@&S@:_|tNdB@&Q*v|tNdB@Ar|tNdB+Ntr|tNdB+N@VO|tNdB+Nv0|tNdB+N$0|",
    "tNdB+N!O|tNdB+N&*|tNdB+NyU|tNdB?N!d@O(|tNdB@2U!d@O(|tNdB?N!d+t|tNdB@2U!d+t|tNdB@2b+t|tNdB?0!d+t|",
    "dBvm.X|dBi.X|dBt2.X|dB#it2.X|dB%^.X|dBv:.X|dBc)w1|dBZ)w1|dB)wp|dB#_@Sb|dBu=@w=|dB@Sb|dB@!S|dB@9@",
    "(2-v)|dB@9@(2-um|dB@9@(2-vo|dB@6[|dB@6[t9|dB@5#j|dB@wu|dB@vk|dBuG|dBt0-vL*:|dBt3-vL*:|dBtC-vL*:|",
    "dBtQ-vL*:|dBtX-vL*:|dBt=-vL*:|dBt=-@Tj@K?|dBtQ-@Tj@K?|dBu[&W|dBu[&W:f@0^|dBu[&W:fyj|dBtb&W|dBuV&",
    "W|dBuV&W:f@0^|dBuV&W:fyj|dB.u&W-v)|dB.u&W-um|dB&9+z$S|dBi+@|dBizI|dBzItj|dBzIt$|dB@8+tj|dB@8+t$|",
    "dB+@tj|dB+@t$|dByrti+@|dByrtizI|dB@!f@BC|dB@6Q@BC|dB:f@0^|dB:fyj|dB@Rj@0^|dB@Rjyj|dB[A#$S|dB@Bq$",
    "S|dBt($S|dByr$S|dBym$S|dB*.$S|dBx)-&u$S|dB#j-+j$S|dBt0uEws-ym$S|dBvj!*|dBts!*|dBtxvj!*|dBl!*tE|d",
    "Bl!*t7|dBtm!*tjtE|dBtm!*tjt7|dBtm!*ctE|dBtm!*ct7|dBtm!*ZtE|dBtm!*Zt7|dBtm!*t$tE|dBtm!*t$t7|dBtm!",
    "*tjZtE|dBtm!*tjZt7|dB!1!*tE|dB!1!*t7|dBtm-$:!*t$tE|dBtm-$:!*t$t7|dBy8!*|dB[d+!*|dB!*t7|dB@P_!*|d",
    "B&[!*tE|dB&[!*t7|dBxA|dB@Bq!f|dBt(!f|dByr!f|dBym!f|dB*.!f|dBx)-&u!f|dB#j-+j!f|dBt0uEws-ym!f|dBX#",
    "k|dBX[Ug#k|dBX:^-v)|dBX:^-um|dBX:^-vo|dB@6_:^-v)|dB@6_:^-um|dB@6_:^-vo|dBX@q:tA|dBX$h-v)|dBX$h-u",
    "m|dBX$h-vo|dBX$h-wk|dBX$h-x4|dB*7@5r|dBzm@5r|dB*7:@|dBzm:@|dB*7@TA|dBzm@TA|dB*7@Q@|dBzm@Q@|dBXwf",
    "|dBX@Ap|dBX[X(|dBX[V5|dBX@Op|dBX@Op-@Ap|dBXwf-@Ap|dBX[5C|dB@Hatj|dB@Hat$|dBX@&.|dBX[PK|dBX@K!|dB",
    "X[T+|dBX.Z|dBXi$v|dBXx9$v|dB[PH|dB[Vw|dBvR|dB[Kx|dB[9H|dB@.F|dB@#C|dB@%i|dB@7Q!f$]|dB@7Q!fxo$]|d",
    "B[ZC|dB@4T|dBwu@4T|dB@4T$]|dB@4Ttj|dBw$tM-v)|dBw$tM-um|dBw$tM-vo|dBw$tM-wk|dBw$tM-x4|dBw$tM-y3|d",
    "Bw$tM-zP|dBw$tM-#*|dBw$tM-%6|dBw$tM-+F|dBw$tM-)]|dB@@O|dB[Cy|dBzmtS[VS|dB@1d$]|dBXt$.c|dBXtj.c|d",
    "BX@@K|dBX[T?[L7|dB@9ej|dB@9etjj|dBt(@9ej|dB@LWtj|dB@LWt$|dB2@+s|dB@JP|dB@JP=P|dB[8h|dB@2x|dB@IU|",
    "dB@AFtE|dB@AFt7|dB@8q|dB@8qt7|dB@AHtE|dB@AHt7|dB@K]tE|dB@K]t7|dB@2x@3R$S|dB@2x:6$S|dB@IU$S|dB@AF",
    "$S|dB@8q$S|dB@AH$S|dB*_@9g*G*#@3R|dB*_@9g*G*#:6|dB*_@9g*G*#@3R@1k-v)|dB*_?9*G*#@3R|dB*_?9*G*#:6|",
    "dB*_?9*G*#:6@1k-v)|dB*_?9*G*#:6@1k-um|dB*_?9*G*#:6@1k-vo|dB@#F|dB@Lctb&W|dB@LcuV&W|dBlt4|dB[dz|d",
    "B[LR|dB@y^|dB@SY|dB@y?|dB@UT|dB@RG|dB@RG@Kz|dB@SY@Kz|dB@UT[O]|dB[KV[Vz|dB(9tb&W|dB(9zmtS)s|dB(9t",
    "2!f|dB(9[Ooj|dB(9@Bq!f|dB(9t(!f|dB(9yr!f#kt$|dB(9yr!f#ktj|dB(9ym!f#kt$|dB(9ym!f#ktj|dB(9zI1|dB[U",
    "9|dB[2V|a!Dw1B-v)|a!Dw1B-um|a!Dw1B-vo|a!Dw1B-wk|a!Dw1B-x4|a!Dw1B-y3|a!Dw1B-zP|a!Dw1B-#*|a!Dw1B-%",
    "6|a!Dw1B-+F|a!Dw1B-)]|a!Dw1B-+G|a!Dw1B-+H|a!Dw1B-+I|a!Dw1B-.M|a!Dw1B-.N|a!Dw1B-=I|a!Dw1B-.O|a!Dw",
    "1B-@0#|a!Dw1B-@4^|a!Dw1B-@4_|a!Dw1B-@Dc|a!Dw1B-=J|a!Dw1B-=K|a!Dw1B-@5P|a!Dw1B-@5Q|a!Dw1B-@5R|a!D",
    "w1B-@5S|a!Dw1B-@5T|ay@w1B-v)|ay@w1B-um|ay@w1B-wk|ay@w1B-x4|ay@w1B-zP|ay@w1B-#*|ay@w1B-)]|ay@w1B-",
    "+G|ay@w1B-+H|ay@w1B-+I|ay@w1B-=I|ay@w1B-.O|ay@w1B-@0#|ay@w1B-=J|ay@w1B-=K|ay@w1B-@0*|ay@w1B-@0.|",
    "ay@w1B-@59|ay@w1B-@D[|ay@w1B-@D]|ay@w1B-@D^|ay@w1B-@0:|ay@w1B-@5H|ay@w1B-@5I|ay@w1B-@5J|ay@w1B-@",
    "E9|ay@w1B-@EA|ay@w1B-@EB|ay@w1B-@0=|ay@w1B-@5N|ay@w1B-@5O|ay@w1B-@EK|ay@w1B-@5P|ay@w1B-@5Q|ay@w1",
    "B-@5R|ay@w1B-@5S|ay@w1B-@5T|Xad@Ug|Xad@U7|Xad@Q#|ad:N|##w4vV|##w4t0|##w4t3|##w4tC|##w4tQ|##w4tX|",
    "##w4t=|##w4uB|##w4t?|##w4uF|##w4vv|##w4&1|##w4%2|##w4+1|##w4*S|##w4(1|##w4)3|##w4*)|##w4)V|##w4*",
    "p|)nh$%|)Th@@a$%|)Th@7h$%|)Th@KF@2A|)Th@KF@7h|)Th$%|v=hwv|v=hxhtx|v=h[A4|v=h@u8|v=h@My3|v=h@!%|v",
    "=h@qg|v=h@9P|v=h@vp$5|v=h@%lvM@&m|v=h@&p|v=h[hT|v=h@7o|v=h[KH|v=h@Rx|v=h.j|v=h:2%7|v=h@VQ|v=h@K%",
    "|v=h@oy|v=h[Oz|v=h[O?|v=h@)F|v=h@7(|v=h@!x|v=h@)o|v=h@(T|v=h@x%|v=h@%g|v=hR[O@|v=h[J9|v=h[4A|v=h",
    "@y_|v=h[1(|v=h@7B|v=h[Vg|v=h[MX|v=h@.V|v=h[O=|v=h@NZvM[AE|v=h@R=|v=h@?1tG@O!|v=h@)n|v=h[VX|v=h@?",
    "O|v=h@)s|v=htK|v=h[PN|v=h@+?|v=h[dOvM[e.|v=h@!v|v=h+z|v=h@6$|v=h[bw|v=h@&X|v=hy5xn|v=h@?V|v=h@7B",
    "w*|v=h[8Y|v=h@oo|v=h@)h|v=h@(0|v=h@VU|v=h[Td|v=h@MP|v=h@Jn|v=h@JT|v=h@&Y|v=h@*9|v=h[SF|v=h[VU|v=",
    "h@@J|v=h@69|v=h@z1|v=h@+G|v=h@p1|v=h@!k|v=hwiyO[db|v=h@&O|v=h[3l|v=h@.H|$D$T&!Et0|$D$T&!Et3|$D$T",
    "&!EtC|$D$T&!EtQ|$D$T&!EtX|$D$T&!Et=|$D$T&!EuB|$D$T&!Et?|$D$T&!EuF|$D$T(WEt0|$D$T(WEt3|$D$T(WEtC|",
    "$D$T(WEtQ|$D$T(WEtX|$D$T(WEt=|$D$T(WEuB|$D$T(WEt?|$D$T(WEuF|ui.7jt0|ui.7jt3|ui.7jtC|ui.7jtQ|ui.7",
    "jtX|.7jt0|.7jtX|CR5F|CR5t4|CR5tb|CR5tV|CR5f|CR5uV|CR5u[|CR5vB|CR5t6|CR5vt|CR5v3|CR5t+|CR5uz|CR5u",
    "5|CR5t1|CR5vQ|CR5x6|CR5tu|CR5tt|CR5u]|CR5n|CR5v5|CR5v(|CR5vj|CR5u?|CR5vR|CR3F|CR3t4|CR3tb|CR3tV|",
    "CR3f|CR3uV|CR3u[|CR3vB|CR3t6|CR3vt|CR3v3|CR3t+|CR3uz|CR3u5|CR3t1|CR3vQ|CR3x6|CR3tu|CR3tt|CR3u]|C",
    "R3n|CR3v5|CR3v(|CR3vj|CR3u?|CR3vR|Cm5F|Cm5t4|Cm5tb|Cm5tV|Cm5f|Cm5uV|Cm5u[|Cm5vB|Cm5t6|Cm5vt|Cm5v",
    "3|Cm5t+|Cm5uz|Cm5u5|Cm5t1|Cm5vQ|Cm5x6|Cm5tu|Cm5tt|Cm5u]|Cm5n|Cm5v5|Cm5v(|Cm5vj|Cm5u?|Cm5vR|Cm3F|",
    "Cm3t4|Cm3tb|Cm3tV|Cm3f|Cm3uV|Cm3u[|Cm3t6|Cm3vt|Cm3v3|Cm3t+|Cm3uz|Cm3u5|Cm3t1|Cm3vQ|Cm3x6|Cm3tu|C",
    "m3tt|Cm3u]|Cm3n|Cm3v5|Cm3v(|Cm3vj|Cm3u?|Cm3vR|CRm5F|CRm5t4|CRm5tb|CRm5tV|CRm5f|CRm5uV|CRm5u[|CRm",
    "5vB|CRm5t6|CRm5vt|CRm5v3|CRm5t+|CRm5uz|CRm5u5|CRm5t1|CRm5vQ|CRm5x6|CRm5tu|CRm5tt|CRm5u]|CRm5n|CR",
    "m5v5|CRm5v(|CRm5vj|CRm5u?|CRm5vR|CRm3F|CRm3t4|CRm3tb|CRm3tV|CRm3f|CRm3uV|CRm3u[|CRm3vB|CRm3t6|CR",
    "m3vt|CRm3v3|CRm3t+|CRm3uz|CRm3u5|CRm3t1|CRm3vQ|CRm3x6|CRm3tu|CRm3tt|CRm3u]|CRm3n|CRm3v5|CRm3v(|C",
    "Rm3vj|CRm3u?|CRm3vR|Cuh5F|Cuh5tb|Cuh5tV|Cuh5u[|Cuh5vt|Cuh5v3|Cuh5u5|Cuh5t1|Cuh5vQ|Cuh5x6|Cuh5tt|",
    "Cuh5u]|Cuh5n|Cuh5v5|Cuh5v(|Cuh5vj|Cuh5u?|Cuh5vR|Cuh3F|Cuh3t4|Cuh3tb|Cuh3tV|Cuh3uV|Cuh3vB|Cuh3t6|",
    "Cuh3vt|Cuh3v3|Cuh3t+|Cuh3uz|Cuh3u5|Cuh3vQ|Cuh3x6|Cuh3tu|Cuh3tt|Cuh3u]|Cuh3n|Cuh3v5|Cuh3v(|Cuh3vj",
    "|Cuh3u?|Cuh3vR|CRuh5F|CRuh5t4|CRuh5tb|CRuh5tV|CRuh5f|CRuh5uV|CRuh5u[|CRuh5vB|CRuh5t6|CRuh5vt|CRu",
    "h5v3|CRuh5t+|CRuh5uz|CRuh5u5|CRuh5t1|CRuh5vQ|CRuh5x6|CRuh5tu|CRuh5tt|CRuh5u]|CRuh5n|CRuh5v5|CRuh",
    "5v(|CRuh5vj|CRuh5u?|CRuh5vR|CRuh3F|CRuh3t4|CRuh3tb|CRuh3tV|CRuh3f|CRuh3uV|CRuh3u[|CRuh3vB|CRuh3t",
    "6|CRuh3vt|CRuh3v3|CRuh3t+|CRuh3uz|CRuh3u5|CRuh3t1|CRuh3vQ|CRuh3x6|CRuh3tu|CRuh3tt|CRuh3u]|CRuh3n",
    "|CRuh3v5|CRuh3v(|CRuh3vj|CRuh3u?|CRuh3vR|Cv85F|Cv85t4|Cv85tV|Cv85f|Cv85uV|Cv85u[|Cv85vt|Cv85v3|C",
    "v85t+|Cv85uz|Cv85u5|Cv85t1|Cv85vQ|Cv85x6|Cv85tt|Cv85u]|Cv85n|Cv85v5|Cv85v(|Cv85vj|Cv85u?|Cv83F|C",
    "v83t4|Cv83tb|Cv83tV|Cv83f|Cv83uV|Cv83u[|Cv83vB|Cv83t6|Cv83vt|Cv83v3|Cv83t+|Cv83uz|Cv83u5|Cv83t1|",
    "Cv83vQ|Cv83x6|Cv83tu|Cv83tt|Cv83u]|Cv83n|Cv83v5|Cv83v(|Cv83vj|Cv83u?|Cv83vR|Ci-vH5F|Ci-vH5t4|Ci-",
    "vH5tV|Ci-vH5f|Ci-vH5uV|Ci-vH5u[|Ci-vH5t6|Ci-vH5vt|Ci-vH5v3|Ci-vH5t+|Ci-vH5uz|Ci-vH5t1|Ci-vH5tt|C",
    "i-vH5u]|Ci-vH5n|Ci-vH5v5|Ci-vH5v(|Ci-vH5vj|Ci-vH5u?|Ci-vH3F|Ci-vH3t4|Ci-vH3tb|Ci-vH3tV|Ci-vH3f|C",
    "i-vH3uV|Ci-vH3u[|Ci-vH3vB|Ci-vH3t6|Ci-vH3vt|Ci-vH3v3|Ci-vH3t+|Ci-vH3uz|Ci-vH3u5|Ci-vH3t1|Ci-vH3v",
    "Q|Ci-vH3x6|Ci-vH3tu|Ci-vH3tt|Ci-vH3u]|Ci-vH3n|Ci-vH3v5|Ci-vH3v(|Ci-vH3vj|Ci-vH3u?|Ci-vH3vR|CRv85",
    "F|CRv85t4|CRv85tb|CRv85tV|CRv85f|CRv85uV|CRv85u[|CRv85vB|CRv85t6|CRv85vt|CRv85v3|CRv85t+|CRv85uz",
    "|CRv85u5|CRv85t1|CRv85vQ|CRv85x6|CRv85tu|CRv85tt|CRv85u]|CRv85n|CRv85v5|CRv85v(|CRv85vj|CRv85u?|",
    "CRv85vR|CRv83F|CRv83t4|CRv83tb|CRv83tV|CRv83f|CRv83uV|CRv83u[|CRv83vB|CRv83t6|CRv83vt|CRv83v3|CR",
    "v83t+|CRv83uz|CRv83u5|CRv83t1|CRv83vQ|CRv83x6|CRv83tu|CRv83tt|CRv83u]|CRv83n|CRv83v5|CRv83v(|CRv",
    "83vj|CRv83u?|CRv83vR|Cs-q5F|Cs-q5t4|Cs-q5tb|Cs-q5tV|Cs-q5f|Cs-q5uV|Cs-q5u[|Cs-q5vB|Cs-q5t6|Cs-q5",
    "vt|Cs-q5v3|Cs-q5t+|Cs-q5uz|Cs-q5u5|Cs-q5t1|Cs-q5vQ|Cs-q5x6|Cs-q5tu|Cs-q5tt|Cs-q5u]|Cs-q5n|Cs-q5v",
    "5|Cs-q5v(|Cs-q5vj|Cs-q5u?|Cs-q5vR|Cs-q3F|Cs-q3t4|Cs-q3tb|Cs-q3tV|Cs-q3f|Cs-q3uV|Cs-q3u[|Cs-q3vB|",
    "Cs-q3t6|Cs-q3vt|Cs-q3v3|Cs-q3t+|Cs-q3uz|Cs-q3u5|Cs-q3t1|Cs-q3vQ|Cs-q3x6|Cs-q3tu|Cs-q3tt|Cs-q3u]|",
    "Cs-q3n|Cs-q3v5|Cs-q3v(|Cs-q3vj|Cs-q3u?|Cs-q3vR|Cs-qR5F|Cs-qR5t4|Cs-qR5tb|Cs-qR5tV|Cs-qR5f|Cs-qR5",
    "uV|Cs-qR5u[|Cs-qR5vB|Cs-qR5t6|Cs-qR5vt|Cs-qR5v3|Cs-qR5t+|Cs-qR5uz|Cs-qR5u5|Cs-qR5t1|Cs-qR5vQ|Cs-",
    "qR5x6|Cs-qR5tu|Cs-qR5tt|Cs-qR5u]|Cs-qR5n|Cs-qR5v5|Cs-qR5v(|Cs-qR5vj|Cs-qR5u?|Cs-qR5vR|Cs-qR3F|Cs",
    "-qR3t4|Cs-qR3tb|Cs-qR3tV|Cs-qR3f|Cs-qR3uV|Cs-qR3u[|Cs-qR3vB|Cs-qR3t6|Cs-qR3vt|Cs-qR3v3|Cs-qR3t+|",
    "Cs-qR3uz|Cs-qR3u5|Cs-qR3t1|Cs-qR3vQ|Cs-qR3x6|Cs-qR3tu|Cs-qR3tt|Cs-qR3u]|Cs-qR3n|Cs-qR3v5|Cs-qR3v",
    "(|Cs-qR3vj|Cs-qR3u?|Cs-qR3vR|Cs-qm5F|Cs-qm5t4|Cs-qm5tb|Cs-qm5tV|Cs-qm5f|Cs-qm5uV|Cs-qm5u[|Cs-qm5",
    "vB|Cs-qm5t6|Cs-qm5vt|Cs-qm5v3|Cs-qm5t+|Cs-qm5uz|Cs-qm5u5|Cs-qm5t1|Cs-qm5vQ|Cs-qm5x6|Cs-qm5tu|Cs-",
    "qm5tt|Cs-qm5u]|Cs-qm5n|Cs-qm5v5|Cs-qm5v(|Cs-qm5vj|Cs-qm5u?|Cs-qm5vR|Cs-qm3F|Cs-qm3t4|Cs-qm3tb|Cs",
    "-qm3tV|Cs-qm3f|Cs-qm3uV|Cs-qm3u[|Cs-qm3vB|Cs-qm3t6|Cs-qm3vt|Cs-qm3v3|Cs-qm3t+|Cs-qm3uz|Cs-qm3u5|",
    "Cs-qm3t1|Cs-qm3vQ|Cs-qm3x6|Cs-qm3tu|Cs-qm3tt|Cs-qm3u]|Cs-qm3n|Cs-qm3v5|Cs-qm3v(|Cs-qm3vj|Cs-qm3u",
    "?|Cs-qm3vR|Cs-qRm5F|Cs-qRm5t4|Cs-qRm5tb|Cs-qRm5tV|Cs-qRm5f|Cs-qRm5uV|Cs-qRm5u[|Cs-qRm5vB|Cs-qRm5",
    "t6|Cs-qRm5vt|Cs-qRm5v3|Cs-qRm5t+|Cs-qRm5uz|Cs-qRm5u5|Cs-qRm5t1|Cs-qRm5vQ|Cs-qRm5x6|Cs-qRm5tu|Cs-",
    "qRm5tt|Cs-qRm5u]|Cs-qRm5n|Cs-qRm5v5|Cs-qRm5v(|Cs-qRm5vj|Cs-qRm5u?|Cs-qRm5vR|Cs-qRm3F|Cs-qRm3t4|C",
    "s-qRm3tb|Cs-qRm3tV|Cs-qRm3f|Cs-qRm3uV|Cs-qRm3u[|Cs-qRm3vB|Cs-qRm3t6|Cs-qRm3vt|Cs-qRm3v3|Cs-qRm3t",
    "+|Cs-qRm3uz|Cs-qRm3u5|Cs-qRm3t1|Cs-qRm3vQ|Cs-qRm3x6|Cs-qRm3tu|Cs-qRm3tt|Cs-qRm3u]|Cs-qRm3n|Cs-qR",
    "m3v5|Cs-qRm3v(|Cs-qRm3vj|Cs-qRm3u?|Cs-qRm3vR|Cw@5F|Cw@5t4|Cw@5tb|Cw@5tV|Cw@5f|Cw@5uV|Cw@5u[|Cw@5",
    "vB|Cw@5t6|Cw@5vt|Cw@5v3|Cw@5t+|Cw@5uz|Cw@5u5|Cw@5t1|Cw@5vQ|Cw@5x6|Cw@5tu|Cw@5tt|Cw@5u]|Cw@5n|Cw@",
    "5v5|Cw@5v(|Cw@5vj|Cw@5u?|Cw@5vR|Cw@3F|Cw@3t4|Cw@3tb|Cw@3tV|Cw@3f|Cw@3uV|Cw@3u[|Cw@3vB|Cw@3t6|Cw@",
    "3vt|Cw@3v3|Cw@3t+|Cw@3uz|Cw@3u5|Cw@3t1|Cw@3vQ|Cw@3x6|Cw@3tu|Cw@3tt|Cw@3u]|Cw@3n|Cw@3v5|Cw@3v(|Cw",
    "@3vj|Cw@3u?|Cw@3vR|Cm3#et6|Cm3#evt|CR5wS|CR5#[|CR5#O|CR5#v|CR5y!|CR5&P|CR5xN|CR5!?|CR5xW|CR5$L|C",
    "R5%s|CR5x]|CR5zC|CR5%b|CR5z%|CR5xi|CR5!Q|CR5!?B|CR5!y|CR5$W|CR5x=|CR5!.|CR5!m|CR5$r|CR5wO|CR:W|C",
    "R3wS|CR3#[|CR3#O|CR3#v|CR3y!|CR3&P|CR3xN|CR3!?|CR3xW|CR3$L|CR3%s|CR3x]|CR3zC|CR3%b|CR3z%|CR3xi|C",
    "R3!Q|CR3t2!y|CR3!y|CR3$W|CR3x=|CR3!.|CR3!m|CR3$r|CR3wO|CR:i.q|CRy!B|CR!?B|CR$LB|CR!.B|CR!QB|CRxi",
    "B|Cm5wS|Cm5#[|Cm5#O|Cm5#v|Cm5y!|Cm5&P|Cm5xN|Cm5!?|Cm5xW|Cm5$L|Cm5%s|Cm5x]|Cm5zC|Cm5%b|Cm5z%|Cm5x",
    "i|Cm5!Q|Cm5!?B|Cm5!y|Cm5$W|Cm5x=|Cm5!.|Cm5!m|Cm5$r|Cm5wO|Cm:W|Cm3wS|Cm3#[|Cm3#O|Cm3#v|Cm3y!|Cm3&",
    "P|Cm3xN|Cm3!?|Cm3xW|Cm3$L|Cm3%s|Cm3x]|Cm3zC|Cm3%b|Cm3z%|Cm3xi|Cm3!Q|Cm3t2!y|Cm3!y|Cm3$W|Cm3x=|Cm",
    "3!.|Cm3!m|Cm3$r|Cm3wO|Cm:i.q|Cmy!B|Cm!?B|Cm$LB|Cm!.B|Cm!QB|CmxiB|CRm5wS|CRm5#[|CRm5#O|CRm5#v|CRm",
    "5y!|CRm5&P|CRm5xN|CRm5!?|CRm5xW|CRm5$L|CRm5%s|CRm5x]|CRm5zC|CRm5%b|CRm5z%|CRm5xi|CRm5!Q|CRm5!?B|",
    "CRm5!y|CRm5$W|CRm5x=|CRm5!.|CRm5!m|CRm5$r|CRm5wO|CRm:W|CRm3wS|CRm3#[|CRm3#O|CRm3#v|CRm3y!|CRm3&P",
    "|CRm3xN|CRm3!?|CRm3xW|CRm3$L|CRm3%s|CRm3x]|CRm3zC|CRm3%b|CRm3z%|CRm3xi|CRm3!Q|CRm3t2!y|CRm3!y|CR",
    "m3$W|CRm3x=|CRm3!.|CRm3!m|CRm3$r|CRm3wO|CRm:i.q|CRmy!B|CRm!?B|CRm$LB|CRm!.B|CRm!QB|CRmxiB|Cs-qR5",
    "wS|Cs-qR5#[|Cs-qR5#O|Cs-qR5#v|Cs-qR5y!|Cs-qR5&P|Cs-qR5xN|Cs-qR5!?|Cs-qR5xW|Cs-qR5$L|Cs-qR5%s|Cs-",
    "qR5x]|Cs-qR5zC|Cs-qR5%b|Cs-qR5z%|Cs-qR5xi|Cs-qR5!Q|Cs-qR5!?B|Cs-qR5!y|Cs-qR5$W|Cs-qR5x=|Cs-qR5!.",
    "|Cs-qR5!m|Cs-qR5$r|Cs-qR5wO|Cs-qR:W|Cs-qR3wS|Cs-qR3#[|Cs-qR3#O|Cs-qR3#v|Cs-qR3y!|Cs-qR3&P|Cs-qR3",
    "xN|Cs-qR3!?|Cs-qR3xW|Cs-qR3$L|Cs-qR3%s|Cs-qR3x]|Cs-qR3zC|Cs-qR3%b|Cs-qR3z%|Cs-qR3xi|Cs-qR3!Q|Cs-",
    "qR3t2!y|Cs-qR3!y|Cs-qR3$W|Cs-qR3x=|Cs-qR3!.|Cs-qR3!m|Cs-qR3$r|Cs-qR3wO|Cs-qR:i.q|Cs-qRy!B|Cs-qR!",
    "?B|Cs-qR$LB|Cs-qR!.B|Cs-qR!QB|Cs-qRxiB|Cs-qRm5wS|Cs-qRm5#[|Cs-qRm5#O|Cs-qRm5#v|Cs-qRm5y!|Cs-qRm5",
    "&P|Cs-qRm5xN|Cs-qRm5!?|Cs-qRm5xW|Cs-qRm5$L|Cs-qRm5%s|Cs-qRm5x]|Cs-qRm5zC|Cs-qRm5%b|Cs-qRm5z%|Cs-",
    "qRm5xi|Cs-qRm5!Q|Cs-qRm5!?B|Cs-qRm5!y|Cs-qRm5$W|Cs-qRm5x=|Cs-qRm5!.|Cs-qRm5!m|Cs-qRm5$r|Cs-qRm5w",
    "O|Cs-qRm:W|Cs-qRm3wS|Cs-qRm3#[|Cs-qRm3#O|Cs-qRm3#v|Cs-qRm3y!|Cs-qRm3&P|Cs-qRm3xN|Cs-qRm3!?|Cs-qR",
    "m3xW|Cs-qRm3$L|Cs-qRm3%s|Cs-qRm3x]|Cs-qRm3zC|Cs-qRm3%b|Cs-qRm3z%|Cs-qRm3xi|Cs-qRm3!Q|Cs-qRm3t2!y",
    "|Cs-qRm3!y|Cs-qRm3$W|Cs-qRm3x=|Cs-qRm3!.|Cs-qRm3!m|Cs-qRm3$r|Cs-qRm3wO|Cs-qRm:i.q|Cs-qRmy!B|Cs-q",
    "Rm!?B|Cs-qRm$LB|Cs-qRm!.B|Cs-qRm!QB|Cs-qRmxiB|CR5.r|CR3.r|CREvV|CREt0|CREt3|CREtC|CREtQ|CREtX|CR",
    "Et=|CREuB|CREt?|CREuF|Ci-vHEvV|Ci-vHEt0|Ci-vHEt3|Ci-vHEtC|Ci-vHEtQ|Ci-vHEtX|Ci-vHEt=|Ci-vHEuB|Ci",
    "-vHEt?|Ci-vHEuF|Cs-qEvV|Cs-qEt0|Cs-qEt3|Cs-qEtC|Cs-qEtQ|Cs-qEtX|Cs-qEt=|Cs-qEuB|Cs-qEt?|Cs-qEuF|",
    "Cs-qREvV|Cs-qREt0|Cs-qREt3|Cs-qREtC|Cs-qREtQ|Cs-qREtX|Cs-qREt=|Cs-qREuB|Cs-qREt?|Cs-qREuF|Cw@EvV",
    "|Cw@Et0|Cw@Et3|Cw@EtC|Cw@EtQ|Cw@EtX|Cw@Et=|Cw@EuB|Cw@Et?|Cw@EuF|MtB-uWt&|MtB-txt&|MtB-#tt&|MtB-&",
    "Ct&|MtB-yot&|MtB-v+t&|MtB-uWt&zx|MtB-txt&zx|MtB-uWuO)9t&zx|MtB-uWt&zL@2d|MtB-uWt&.n|MtB-uWt&#x|M",
    "tB-uWt&#xt_|MtB-txt&yo|MtB-uWt&tR|MtB-txt&tR|MtB-uWt&tRzx|MtB-uWt&tRzL@83|MtB-uWt&tR#x|MtB-uWt&t",
    "jtR#x|MtB-uWt&#xtRtj|MtB-uWt&tRz=|MtB-uWt&tRz=t&zx|MtB-uWt&tRz=tRzx|MtB-uWt&tRz=.n|MtB-uWt&tRz=#",
    "x|MtB-uWt&tR#K|MtB-txt&tR#K|MtB-uWtRzxuRt&|MtB-uWt&zxuRtR|MtB-uWt&tRuO|MtB-txt&tRuO|MtB-uWt&tRz7",
    "uOzx|MtB-uWt&tRzxuOz7|MtB-uWt&tRuOzx|MtB-uWt&tR#x$^uOy+|MtB-uWt&tjtR#xuOy+|MtB-uWt&tjtR#xuOz=|Mt",
    "B-uWt&#xtRtjuOy+|MtB-uWt&tRtj$^uO$G|MtB-uWt&tRuO.n|MtB-uWt&tRuOo|MtB-uWt&tRuO:3|MtB-uWt&tRuO#x|M",
    "tB-uWuO!kt&tRz7|MtB-uWt&tRz=uOy+|MtB-uWt&tRz=uOy+z=|MtB-uWt&tRz=uOy+zx|MtB-uWtRuO:3t&tj|MtB-uWt&",
    "uO:3tRtj|MtB-uWt&tRz=#xuOy+|MtB-uWt&tR#KuOy+|MtB-uWt&tRz=uO$G|MtB-uWt&tRz=.nuO$G|MtB-uWtRuO.nt&t",
    "j|MtB-uWt&uO.ntRtj|MtB-uWtRuOot&tj|MtB-uWtRuOot&#x|MtB-uWt&uO+L$5tRtj|MtB-uWt&uO+Lw*tRtj|MtB-uWt",
    "&uOotRtj|MtB-uWt&tRuOz=#x|MtB-uWt&tRuO+L$5|MtB-uWt&tRuO+L|MtB-uWtRuO+L$5t&tj|MtB-uWtRuO+L$5t&#K|",
    "MtB-uWtRuO+Lt&tj|MtB-uWt&uO:3tR#x|MtB-zItQzo|MtB-zItQzozx|MtB-zItQzo#x|MtB-zItQzoz=|MtB-zItQzoz=",
    ":#|MtB-)PtQzoz=|MtB-uWtQzoz=zx|MtB-yotQzoz=|MtB-zItXzo$^|MtB-zI+qtXzo$^|MtB-zItXzo$^tQzx|MtB-zI+",
    "qtXzo$^tQzx|MtB-zItXzo$^zx|MtB-zI+qtXzo$^zx|MtB-zItXzo$^uO$G|MtB-#ttXzo$^|MtB-#ttXzo$^uj|MtB-yot",
    "Xzo$^uj|MtB-&CtXzo$^|MtB-zItXzo$^#x|MtB-zItXzo$^#xuOy+|MtB-zItXzo$^#xxouO|MtB-zI|MtB-zI!k:h@+A|M",
    "tB-zI+q|MtB-zIuOy+|MtB-zI+quOy+|MtB-zIuOzx|MtB-zIuO$G|MtB-zI:#t&uOy+|MtB-zI:#wv|MtB-zI:#wvuOy+|M",
    "tB-zI:#wvuOy+zx|MtB-zI:#wZ|MtB-)P|MtB-)PuOy+|MtB-)PxouO|MtB-)PuO$G|MtB-tW.o|MtB-tW|MtB-#tuj|MtB-",
    "#t|MtB-#tujuOy+|MtB-#tuOy+|MtB-#tujxouO|MtB-#txouO|MtB-#tujuO$G|MtB-#tuO$G|MtB-.ouj|MtB-.o|MtB-t",
    "x|MtB-&C|MtB-&CuOy+|MtB-&CxouO|MtB-&CuO$G|MtB-youj|MtB-youjuO$G|MtB-yo|MtB-yo3|MtB-youjuOy+|MtB-",
    "youOy+|MtB-youjxouO|MtB-yoxouO|MtB-youOy+@UWt&|MtB-youO!ktRuk|MtB-v+|MtB-uWt&tRuk|MtB-txt&tRuk|M",
    "tB-yot&tRuk|MtB-v+t&tRuk|MtB-yowZ|MtB-uWt&tRukzx|MtB-uWt&tRukz=|MtB-yot&tRukz=|MtB-uWwZt$|MtB-uW",
    "wZt$@S3z7|MtB-uWwZt$@S3#u|MtB-uWwZt$[Iuo|MtB-uWwZtj|MtB-uWuO)9wZtj|MtB-txwZtj|MtB-&CwZtj|MtB-v+w",
    "Ztj|MtB-uWwZzL@2d|MtB-uWwZzx|MtB-uWwZ[Z7uO|MtB-uWwZuO|MtB-yowZuO|MtB-uWwZt&uO|MtB-yowZt&uO|MtB-v",
    "+wZt&uOt&uO$5|MtB-v+wZt&uOt&uO|MtB-uWwZt&|MtB-txwZt&|MtB-yowZt&|MtB-v+wZt&|MtB-uWt&tRwZ|MtB-txt&",
    "tRwZ|MtB-yot&tRwZ|MtB-youk|MtB-v+t&tRwZ|MtB-uWt&tRxgwZ|MtB-txt&tRxgwZ|MtB-uWukt$|MtB-youkt$t&uOt",
    "WtR|MtB-v+ukt$tRuOt&xg|MtB-uWuktj|MtB-uWukzL@2d|MtB-uWukwZ|MtB-txukwZ|MtB-&CukwZ|MtB-v+ukwZ|MtB-",
    "uWuktR|MtB-uWuktRz=|MtB-uWuktRzL@83|MtB-uWukt&|MtB-uWukuO|MtB-tWukuO|MtB-uWt&ukwZ|MtB-txt&ukwZ|M",
    "tB-.ot&ukwZwi|MtB-tWt&ukwZ$5|MtB-tWt&ukwZw*|MtB-tWt&ukwZ)9|MtB-#tt&ukwZ|MtB-yot&ukwZ|MtB-v+t&ukw",
    "Z$5|MtB-v+t&ukwZ|MtB-uWtRt$|MtB-yotR|MtB-uWtRtj|MtB-txtRtj|MtB-uWtRzL@2d|MtB-uWtRtjuOy+|MtB-tWtR",
    "uO|MtB-uWtRuOwZ|MtB-uWtRwZ|MtB-uWtRukwZ|MtB-txtRukwZ|MtB-.otRukwZwi|MtB-#ttRukwZ|MtB-yotRukwZ|Mt",
    "B-v+tRukwZ$5|MtB-v+tRukwZw*|MtB-v+tRukwZ|MtB-txtRukwZzx|MtB-)PtRukwZz=|MtB-)PtRukwZz=y+|MtB-tWtR",
    "ukwZz=$5|MtB-tWtRukwZz=w*|MtB-tWtRukwZz=|MtB-yot&#x|MtB-uWt&uOy+|MtB-yot&uOy+|MtB-uWt&uOy+uOuf|M",
    "tB-uWt&uOy+uOz=|MtB-uWt&uOy+uOzx|MtB-uWt&uOy+t&zx|MtB-uWt&uOy+@IPzx|MtB-uWt&uOy+t&yo|MtB-uWt&uO$",
    "Gt&z7|MtB-uWt&uO$Gt&zx|MtB-uWt&uOtW|MtB-uWt&uO.o|MtB-uWt&uOyxuO$3|MtB-)Pt&uOyxuO$3|MtB-uWt&uOyxu",
    "O)9|MtB-uWt&uOtx|MtB-#tt&uO|MtB-#tt&uOuj|MtB-yot&uOuj|MtB-yot&uOvT|MtB-yot&uO|MtB-yot&uO3|MtB-v+",
    "t&uO$5|MtB-v+t&uOw*|MtB-v+t&uO|MtB-uWuO|MtB-uWuO+q|MtB-uWuOy+uf|MtB-uWuOy+z=|MtB-uWuOy+zx|MtB-uW",
    "uO$G|MtB-uWuO!kt&tR|MtB-uWuO!ktRuk|MtB-uWuO!kukwZ|MtB-uWuO)9t3zo|MtB-uWuOuRt3zo|MtB-uWuO)9tCzo|M",
    "tB-uWuO)9tQzo|MtB-uWuOuRtQzL@83|MtB-uW|MtB-uW+q|M@BJvm|M@BJ&9|M@BJ!k|M@7Rvm|M@7R&9|M@7R!k|M@Awvm",
    "|M@Aw&9|M@Aw!k|M.fvm|M.f&9|M.f!k|M@09vm|M@09&9|M@09!k|M@A%@A+|M@A%!k|M:$vTvm|M:$3vm|M:$vT&9|M:$3",
    "&9|M:$@3z|M..vTvm|M..3vm|M..vT&9|M..3&9|M..@3z|M:$..#6|Mtk-yotjt$vT|Mtk-yotjt$3|Mtk-yotj@3z|Mtk-",
    "yot$@3z|Mtk-yotjt$#6vT|Mtk-yotjt$#63|Mtk-yoy+tGy+:w|Mtk-un%o.j|Mtk-u*%o.j|Mtk-unvmz73|Mtk-unvmz7",
    "u&|Mtk-unvmz7vT|Mtk-unvmz7)l|Mtk-unvm%*(x|Mtk-uniz7|Mtk-uni%*(x|Mtk-uni#6|Mtk-uni#6%*(x|Mtk-unxg",
    "|Mtk-unx9z7tk|Mtk-unx9%*(x|Mtk-unx9#6|Mtk-unx9#6%*(x|Mtk-un.Z3|Mtk-un.Zu&|Mtk-un.ZvT|Mtk-uny=3|M",
    "tk-uny=u&|Mtk-uny=vT|Mtk-uny=yA|Mtk-un%h3|Mtk-un%hu&|Mtk-un%hvT|Mtk-untw3|Mtk-untwu&|Mtk-untwvT|",
    "Mtk-un&)3|Mtk-un&)u&|Mtk-un&)vT|Mtk-un:j3|Mtk-un:ju&|Mtk-un:jvT|M$w-unyA-unvm|M$w-unyA-uni|M$w-u",
    "nyA-un#6|M$w-unyA-u*vm|M$w-unyA-u*i|M$w-unyA-u*#6|M$w-un@3$|M$w-un#J.1vm|M$w-un#J.1i|M$w-un#J.1x",
    "9|Mtk-uf*53|Mtk-uf*5u&|Mtk-uf*5vT|Mtk-uf*5)l|Mtk-uf+43|Mtk-uf+4u&|Mtk-uf+4vT|Mtk-uf+4)l|Mtk-uf!k",
    "*53|Mtk-uf!k*5u&|Mtk-uf!k*5vT|Mtk-uf!k*5)l|Mtk-uf!k+43|Mtk-uf!k+4u&|Mtk-uf!k+4vT|Mtk-uf!k+4)l|Mt",
    "k-u*vmz73|Mtk-u*vmz7u&|Mtk-u*vmz7vT|Mtk-u*vmz7)l|Mtk-u*vm%*(x|Mtk-u*iz7|Mtk-u*i%*(x|Mtk-u*i#6|Mt",
    "k-u*i#6%*(x|Mtk-u*xg|Mtk-u*x9z7tk|Mtk-u*x9%*(x|Mtk-u*x9#6tk|Mtk-u*x9#6%*(x|Mtk-u*.Z|Mtk-u*y=3|Mt",
    "k-u*y=u&|Mtk-u*y=vT|Mtk-u*%h|Mtk-u*tw3|Mtk-u*twu&|Mtk-u*twvT|Mtk-u*&)3|Mtk-u*&)u&|Mtk-u*&)vT|Mtk",
    "-u*:j3|Mtk-u*:ju&|Mtk-u*:jvT|M$w-u*yA-u*vm|M$w-u*yA-u*i|M$w-u*yA-u*#6|M$w-u*yA-unvm|M$w-u*yA-uni",
    "|M$w-u*yA-un#6|M$w-u*@3$|Mtk-unyxyr3|Mtk-unyxyru&|Mtk-unyxyrvT|Mtk-unyxyr)l|Mtk-unyxt(-tx3|Mtk-u",
    "nyxt(-txu&|Mtk-unyxt(-txvT|Mtk-unyxt(-tx)l|Mtk-unyxtC-yrtx3|Mtk-unyxtC-yrtxu&|Mtk-un%q3|Mtk-un%q",
    "u&|Mtk-un%qvT|Mtk-un!Z3|Mtk-un!Zu&|Mtk-un!ZvT|Mtk-un!Z3i|Mtk-unzWyxi3|Mtk-unzWyxiu&|Mtk-unzWyxiv",
    "T|Mtk-unzWyxx93|Mtk-unzWyxx9u&|Mtk-unzWyxx9vT|Mtk-unyx)(z7|Mtk-un#uxg3|Mtk-un#uxgu&|MyA-unvm|MyA",
    "-uni|MyA-unyh|Mtk-un@3$|Mtk-unyxxV&3$Y|Mtk-un%qxV&3$Y|Mtk-un!ZxV&3$Y|Mtk-unzWxV&3$Y|MyA-unvmxV&3",
    "$Y|MyA-unixV&3$Y|MyA-un#6xV&3$Y|Mtk-unyxxV+S|Mtk-un%qxV+S|Mtk-un!ZxV+S|Mtk-unzWxV+S|MyA-unvmxV+S",
    "|MyA-unixV+S|MyA-un#6xV+S|Mtk-unzWuf?&3|Mtk-unzWuf?&u&|Mtk-unzWuf?&vT|Mtk-u*yxxV$e3|Mtk-u*yxxV$e",
    "vT|Mtk-u*%qxV$e3i|Mtk-u*%qxV$evTi|Mtk-u*%qxV$e3x9|Mtk-u*%qxV$evTx9|Mtk-u*!ZxV$e3vm|Mtk-u*!ZxV$ev",
    "Tvm|Mtk-u*!ZxV$e3i|Mtk-u*!ZxV$evTi|Mtk-u*zWxV$e3|Mtk-u*zWxV$evT|MyA-u*vmxV$e|MyA-u*ixV$e|MyA-u*#",
    "6xV$e|Mtk-u*yxxV$F3|Mtk-u*yxxV$FvT|Mtk-u*%qxV$F3i|Mtk-u*%qxV$FvTi|Mtk-u*%qxV$Fx93x9|Mtk-u*%qxV$F",
    "x9vTx9|Mtk-u*!ZxV$F3vm|Mtk-u*!ZxV$FvTvm|Mtk-u*!ZxV$F3i|Mtk-u*!ZxV$FvTi|Mtk-u*zWxV$F3|Mtk-u*zWxV$",
    "FvT|MyA-u*vmxV$F|MyA-u*ixV$F|MyA-u*#6xV$F|Mtk-u*yx3|Mtk-u*yxu&|Mtk-u*yxvT|Mtk-u*yx)l|Mtk-u*yx@!c",
    "|Mtk-u*%q3|Mtk-u*!Z3|Mtk-u*zW@40|Mtk-u*zW3|Mtk-u*zWvT|MyA-u*vm|MyA-u*i|MyA-u*#6|Mtk-u*@3$(?|Mtk-",
    "un#Jtx3vm|Mtk-un#Jtxu&vm|Mtk-un#Jtx3i|Mtk-un#Jtxu&i|Mtk-u*#JtxxV$Y3vm|Mtk-u*#JtxxV$Yu&vm|Mtk-u*#",
    "JtxxV$YvTvm|Mtk-u*#JtxxV$Y3i|Mtk-u*#JtxxV$Yu&i|Mtk-u*#JtxxV$YvTi|Mtk-un%*tx&3vm|Mtk-un%*tx&3i|Mt",
    "k-u*%*txxV$Yvm|Mtk-u*%*txxV$Yi|Mtk-un%o$fvm|Mtk-un%o$fi|Mtk-u*%o$fxV$Yvm|Mtk-u*%o$fxV$Yi|M(qw63|",
    "M(qw6vT|M(q@+Q|M(q@T9|M(q.C|M(q@R)|M(q@S^|M(q@S^#6|M(q@*3[It@BC|M(q@?F|Mz@|Mz@[PE|Mz@tk-unz7|Mz@",
    "tk-un[Yl|Mz@tk-u*z7|Mz@tk-unyx|Mz@tk-u*yx|Mz@tktx|Mtv@1m:m(H$G@4I|Mtv@1m:m(HtjvMt$|Mtv@1m:m(Htjv",
    "Mt$@4I|M+dz7tj|M+dz7yY|M+dz7t$|M@1s+dyYt$|M@1s+dt$yY|M@1s+dtjyY|M@1s+dyYtj|M@76yY|M@76.j|M@76.K|",
    "M!ouj|M!o[Un|M!oy5|M(v@IDvm|M(v@ID&9|M!ot(uj|M!oxfuj|M!ot(y5|M!o[fBtk|M(v[fI|M@6+tj|M@6+t$|M@6+@",
    "K$|M)Z-unz7|M)Z-unz7i|M)Z-unz7#6|M)Z-u*z7|M)Z-u*z7i|M)Z-u*z7#6|M)Z-un#u|M)Z-u*#u|M)Z-un@I+|M.i[M",
    "L|M.iyY|M.i@Tp|M.C.iuA|M.C.itR|M.C.it_|M@KE|M(HyY|M(H.j|M(H@Bu|M(H[fC|M.Q@IG$5|M.Q[V#w*|M.Q@vR3@",
    "SC|M.Q[V!3@SC|M@5#@^%|M@5#@*8|Mxny5yY|Mxny5$G|Mxny5.j|Mxn@0G|Mxn@0G.K|Mxn@0Guj|Mxn@1]|Mxn@1].K|M",
    "xn@1]uj|Mxnujtx|Mxnuj$G|Mxnuj.K|Mxnuj&C|Mxnuj&C.K|Mxnuj&C@Vw|Mxnuj)u|Mxnuj)u.K|Mxnuj)u@Vw|Mxn:I|",
    "Mxn:I$G|Mxn:I.K|Mxn.C|Mxn.C$G|Mxn.C@Tp|M*f[L*@4J|M@2ut)uRt@|M@2ut@uRt)|Mxn.l|Mxn@Buvm|Mxn@Bui|M$",
    "v@Th$5@+P|M$v[4Y*f|M$v#m!k*f|M$v#m@UW$3xn|M$v$3xn@R)|M$v[Aj@o^@x:|M$vwv@Th$5|M$vwv$3xn|M.B|M.Btk",
    "|M.Bwi$v|M.Bwi$vtk|M.Bwi*f|M.Bwi*ftk|M.B@vL*f|Mtk-un@Mb|Mtk-u*@Mb|M@PW|M+o|M@*7|M@0E:1[UW|M@0E:1",
    "[Lk|Mun@0E:1@P6|Mu*@0E:1@P6|M@0E@4Iz3[ez|M@4M-unz7[Vh|M@4M-un#u.Z|M@4M-u*[aY|Mt@@IJ@4Iz3:1@_=|M*",
    "e@!b|M*e#S-v)|M*e#S-um|M*e#S-vo|M*e#S-wk|M*e#S-x4|M*e#S-y3|M*e#S-zP|M%o|M((-un#Y|M((-u*#Y|M((@@e",
    "|M(((c|M((@%$|M((z@@PW|M((@4M|M(([4l@&R|Mx0|MxhwJ|M&v|MzY|My8|M$Et8-um|M$Et8-vo|M$Et8-wk|M$Et8-x",
    "4|M$Et8-y3|MyAt8-um|MyAt8-vo|MyAt8-wk|MyAt8-x4|MyAt8-y3|MyAt8-zP|MyAt8-#*|MyAt8-%6|MyAt8-+F|MyAt",
    "8-)]|MyAt8-+G|MyAt8-+H|MyAt8-+I|MyAt8-.M|MyAt8-.N|730@6@zl2[ZW|730vcuhu[|7035ulu[|730vcv3|7035t+",
    "2&:|730@2t2yatW|730ulu?2&:|730vc&b|730ultu2ug#zPyatW|730u]2tWPyatW|70ya&@2yatW|730$22iu0|730$22i",
    "u0P#L|730ulu]2#L|70wuz9wJ2#L|70!=tb2#L|7035ulv3|730t+2*R|730@1hzl2!3tW|730t+2&:P!3tW|730&b2!3tW|",
    "730ultu2!3tW|730tu2*RP!3tW|730@4Dzl2!3tW|730&c2!3tW|730@1hzl2yatW|730t62tMPyatW|730t12yatW|730@4",
    "Dzl2yatW|730tb2yatW|730tt2#L|XuL0@5k|XuL0@5(|XuL0@Be|XuL0@7O|XuL0@6o|XuL0@B%|XuL0@B?|XuL0@B:|XuL",
    "0:9|XuL0tc:9|XuL0t6|XuL0@6m|XuL0@7+|XuL0@8Q|XuL0?f|XuL0@8*|XuL0@9N|XuL0@9p|XuL0@9^|XuL0@AZ|XuL0@",
    "BV|XuL0@Ba|XuL0@78|XuL0@7b|XuL0@AQ|XuL0.G|XuL0=h|XuL0wI|XuL0(f|XuL0@4n|XuL0@B#|XuL0xJ|XuL03zw|Xu",
    "L0xX|XuL0:83zw|XuL0%9zw|XuL0:8%9zw|XuL0+h|wawbth0ub|wawbth0z*|wawbth0[Fw|wawbth0uq|wawbth0t]|waw",
    "bth0ue|wawbth0%a|wawbth0[Ed|wawbth0wM|wawbth0uw|wawbth0up|wawbth0xy|wawbth0[CU|wawbth0[F$|wawbth",
    "0td|wawbth0u=|wawbth0wy|wawbth0@99|wawbth0xU|wawbth0[F*|wawbth0[aZ|wawbth0yd|wawbth0uS|wawbth0#%",
    "|wawbth0uY|wawbth0[FH|wawbth0tr|wawbth0@Vo|wawbth0[FF|wawbth0@1o|wawbth0[FG|wawbth0ut|wawbth0@O_",
    "|wawbth0@3V|wawbth0v0|wawbth0#&|wawbth0F|wawbth0ve|wawbth0t6|wawbth0n|wawbth0t1|wawbth0x.|wawbth",
    "0f|wawbth0yX|wawbth0v(|wawbthti-t4|wawbthti-uz|wawbthti-vt|wawbthti-v5|wawbthti-tt|wawbthti-u[|w",
    "awbthti-tV|wawbth1h#V|wawbth1h[YI|wawbth1h((|wawbth1h@p)|wawbth1h@^]|wawbth1@Bx@Bx|wawbth4@2s|wa",
    "wbthEvV|wawbthEt0|wawbthEt3|wawbthEtC|wawbthEtQ|wawbthEtX|wawbthEt=|wawbthEuB|wawbthEt?|wawbthEu",
    "F|wawbth*g[GY|wawbthowM|zs0tr|zs0vS|zs0uq|zs0u=|zs0td|zs0v0|zs0ub|zs0ue|zs0w9|zs0up|zs0wt|zs0uY|",
    "zs0v#|zs0wE|zs0t]|zs0uS|zs0uw|zs0t6|zs0=bt6|zs0?E|zs0=b?E|zs0n|zs0f|zs0=bf|zs0%k|zs0=b%k|zs0t1|z",
    "s0z0|zs0=bz0|zs0F|zs1%Sti|xD0ve|xD0F|xD0vS|xD0wM|xD0u=|xD0v0|xD0uY|xD0xT|xD0uw|xD0ue|xD0tr|xD0uq",
    "|xD0x3|xD0yd|xD0up|xD0wI|xD0wE|xD0xy|xD0v#|xD0xU|xD0td|xD0t1|xD0wA|xD0uS|xD0ub|xD0ww|xD0t]|xD0f|",
    "xD0t6|xD0w9|xD0n|xD0[4(|xD0z*|xD0@BK|xD0@QR|xD0@nX|xD0%:|xD0@7q|xD0wi|xD0xM|xD0@G)|xD0wy|xD0[bU|",
    "xD0[hH|xDti@U$|xDti[aJ|xDti@84|xDti[2L|xDEvV|xDEt0|xDEt3|xDEtC|xDEtQ|xDEtX|xDEt=|xDEuB|xDEt?|xDE",
    "uF|xD[Dt1|b4@@%|b4@@.|b4@@*|b4@@&|b4@@)|b4@@(|b4@@+|b4$J@L&|b4@@$|b4@@#|b4@@!|b4$J@2]|b4$J@PD|b4",
    "$J@Ro|b4$J@Rn|b4$J@Rm|b4$J@Ib|b4$J@Ia|b4$J@2l|b4$J@NH|b4$J@2k|b4$J@Lo|b4$J@Ln|b4$J@Lm|b4$J@L1|b4",
    "$J@L0|b4$J@3d|b4$J@RX|tatZ4@N]zS|tatZ4@N^td|tatZ4@N_z]|tatZ4[62@7[|tatZ4[6W!O|tatZ4[6D?Q|tatZ4[5",
    "%z#|tatZ4[7a[2r|tatZ4@O0!j|tatZ4@O1v#|tatZ4@O2(e|tatZ4[6#@4e|tatZ4[6tz.|tatZ4[6p@0j|tatZ4[5!zj|t",
    "atZ4[7p[fi|tatZ4[70@VZ|tatZ4[5^[fq|tatZ4[5&[fo|tatZ4[6[[fp|tatZ4@O3@2.|tatZ4@O4#U|tatZ4@O5[A&|ta",
    "tZ4[5[(F|tatZ4[6V&8|tatZ4[7B@P9|tatZ4[7k[Av|tatZ4@O6#]|tatZ4@O7vS|tatZ4@O8!l|tatZ4[77.Y|tatZ4[6Y",
    "%8|tatZ4[6e@IL|tatZ4[6@&U|tatZ4@O9t6|tatZ4@OAF|tatZ4@OBn|tatZ4[7KyX|tatZ4[6bf|tatZ4[7Mx.|tatZ4[7",
    "4t1|tatZ4[6?)U|tatZ4[6)w*|tatZ4[6:w*|tatZ4[7qyz|tatZ4[7ZxM|tatZ4@OF!9|tatZ4@OGup|tatZ4@OHz)|tatZ",
    "4[7J*(|tatZ4[6r!h|tatZ4[6=@0H|tatZ4[6GzV|tatZ4[7r[TP|tatZ4@OLw!|tatZ4@OMuw|tatZ4@ON!u|tatZ4[6L@2",
    "q|tatZ4[6Ax%|tatZ4[5.:Q|tatZ4[7A#!|tatZ4[6lugx%|tatZ4@OC$0|tatZ4@ODu=|tatZ4@OE$1|tatZ4[6Q.p|tatZ",
    "4[7b@J.|tatZ4[7c#M|tatZ4@OI!#|tatZ4@OJuq|tatZ4@OKz+|tatZ4[6S:?|tatZ4[5:xv|tatZ4[6f:]|tatZ4[66tG|",
    "tatZ4@OO*Z|tatZ4@OPwE|tatZ4@OQ+r|tatZ4[7E:B|tatZ4[6o&f|tatZ4[7H@Ml|tatZ4[60(8|tatZ4[7Wug(8|tatZ4",
    "@OR9|tatZ4@OSuY|tatZ4@OTxJ|tatZ4[6k=E|tatZ4[6H#o|tatZ4[6^@4p|tatZ4[6wxX|tatZ4@OU(0|tatZ4@OVyd|ta",
    "tZ4@OW)b|tatZ4[6F+g|tatZ4[6C&d|tatZ4[6+@75|tatZ4[6P(5|tatZ4[7s@.R|tatZ4[6c@Kq|tatZ4@OX@95|tatZ4@",
    "OY[B*|tatZ4@OZxB|tatZ4[6s@8[|tatZ4[7Q@34|tatZ4[7XyG|tatZ4@Obt]|tatZ4[7h$m|tatZ4@Oa@2B|tatZ4[6Xx#",
    "|tatZ4@Oc?6|tatZ4[6]zA|tatZ4[6K@@c|tatZ4[6%@]G|tatZ4[5+@L*|tatZ4[6(@7V|tatZ4[6O@M5|tatZ4[5*@Lz|t",
    "atZ4[7o@7g|tatZ4[5#@]R|tatZ4[6R@Pj|tatZ4@Od?m|tatZ4[6J@92|tatZ4[6q@Ph|tatZ4[73@8^|tatZ4[7D@91|ta",
    "tZ4[6v@90|tatZ4[7G[DA|tatZ4[6$[DI|tatZ4[6Nug@8^|tatZ4[6hug@91|tatZ4[7eug@90|tatZ4[7C#0|tatZ4[6mv",
    "0|tatZ4[7P$j|tatZ4[7l=?|tatZ4[7N@?X|tatZ4[7O@?T|tatZ4[7f@Pf|tatZ4[5?@Pp|tatZ4[7Y[Dr|tatZ4[65xi|t",
    "atZ4[6atr|tatZ4[5(&J|tatZ4[6I)q|tatZ4[5)x_|tatZ4[6d??|tatZ4[63$P|tatZ4[72@8e|tatZ4[5_?Y|tatZ4[6x",
    "@8i|tatZ4[5$@2%|tatZ4[7j@2%|tatZ4[69@2$|tatZ4[7T@8h|tatZ4[7V@8g|tatZ4[7i[8!|tatZ4[7Iug@2$|tatZ4[",
    "6gug@8h|tatZ4[6_ug@8g|tatZ4[6*@NA|tatZ4[6T?S|tatZ4[6B@NC|tatZ4@Oe@N9|tatZ4[6j@N8|tatZ4[6n@NB|tat",
    "Z4[7F@2e|tatZ4[6z@LC|tatZ4[5=@7E|tatZ4[75@7F|tatZ4[6U@LB|tatZ4[6i@20|tatZ4[68@LE|tatZ4[67@LD|tat",
    "Z4[7SuS|tatZ4[6y@8=|tatZ4[6&:Y|tatZ4[6!@30|tatZ4[7m@8:|tatZ4[6u@2_|tatZ4[64@PV|tatZ4[61@8?|tatZ4",
    "[79@Pv|tatZ4[7n@97|tatZ4[76?p|tatZ4[6.@P!|tatZ4[7d):|tatZ4[7gxU|tatZ4[78.I|tatZ4[7U+9|tatZ4[6M$x",
    "|tatZ4[71@VN|tatZ4[6E)A|tatZ4[7L@QB|tatZ4[5@[GZ|tatZ4[7R[Gq|tatZ4[6Z[Gc|tatZ4[5][Gl|tatZEt0|tatZ",
    "Et3|tatZEtC|tatZEtQ|tatZEtX|tatZEt=|tatZEuB|tatZEt?|tatZEuF|tatZXV[Xv|tatZXV(W|tatZXV@7i|tatZXV+",
    "3|tatZXVvv+3|tatZXVuE+3|tatZXV+!|vh50@5X|vh50@JL|vh50@8C|vh50@O[|vh50vS|vh50@T0|vh50x_|vh50@1D|v",
    "h50uS|vh50f|vh50yd|vh50t6|vh50t1|vh50x+|vh50@V#|vh50yP|vh50xB|vh50xu|vh50uY|vh50n|vh50@Md|vh50!m",
    "|vh50t]|vh50@9&|vh50v0|vh50wy|vh50z+|vh50:a|vh50xU|vh50ww|vh50@20|vh50@4t|vh50@2e|vh50wI|vh30@5X",
    "|vh30@JL|vh30@8C|vh30@O[|vh30vS|vh30@T0|vh30x_|vh30@1D|vh30uS|vh30f|vh30yd|vh30t6|vh30t1|vh30x+|",
    "vh30@V#|vh30yP|vh30xB|vh30xu|vh30uY|vh30n|vh30@Md|vh30!m|vh30t]|vh30@9&|vh30v0|vh30wy|vh30z+|vh3",
    "0:a|vh30xU|vh30ww|vh30@20|vh30@4t|vh30@2e|vh30wI|vh@5X@2s|vhH@2s|vh=@j|vhv[|vhvit8|vh@:&vit8|vh!",
    "+|vh@8)j|vhEvV|vhEt0|vhEt3|vhEtC|vhEtQ|vhEtX|vhEt=|vhEuB|vhEt?|vhEuF|vhtc!nj|vhtc!6j|uyuTVt0|uyu",
    "TVt3|uyuTVtC|uyuTVtQ|uyuTVtX|uyuTVt=|uyuTVuB|uyuTVt?|uyuTVuF|uyuTVvv|uyuTVws|uyuTVx)|uyuTVz!|uyu",
    "TVz8|uyuTV#j|uyuTVzN|uyuTV%D|uyuTVy&|uyuTVt0uE|uyuTVt3uE|uyuTVtCuE|uyuTVtQuE|uyuTVtXuE|uyuTVt=uE",
    "|uyuTVuBuE|uyuTVt?uE|uyuTVuFuE|uyuTVt0ux|uyuTVt3ux|uyuTVtCux|uyuTVtQux|uyuTVtXux|uyuTVt=ux|uyuTV",
    "uBux|uyuTVt?ux|uyuTVuFux|uyuTVvvux|uyuTVwsux|uyuTVx)ux|uyuTVz!ux|uyuTVz8ux|uyuTV#jux|uyuTVzNux|u",
    "yuTV%Dux|uyuTVy&ux|uyuTV@8D|uyuTV[3x|uyuT@8Dj|uyuTV[0$|uyuTV[0%|uyuTV([t0|uyuTV([t3|uyuTV([tC|uy",
    "uTV([tQ|uyuTV([tX|uyuTV([t=|uyuTV([uB|uyuTV([t?|uyuTV([uF|uyuT@9n|uyuTvAt0yr|uyuTvAt0t(|uyuTvAtC",
    "%R|uyuT*$j|uyuTVyht0|uyuTVyht3|uyuTVyhvvux|uyuTyh@8Dj|x2uTVt0|x2uTVt3|x2uTVtC|x2uTVtQ|x2uTVtX|x2",
    "uTVt=|x2uTVuB|x2uTVt?|x2uTVuF|x2uTVvv|x2uTVws|x2uTVx)|x2uTVz!|x2uTVz8|x2uTV#j|x2uTVzN|x2uTV%D|x2",
    "uTVy&|x2uTVt0uE|x2uTVt3uE|x2uTVtCuE|x2uTVtQuE|x2uTVtXuE|x2uTVt=uE|x2uTVuBuE|x2uTVt?uE|x2uTVuFuE|",
    "x2uTVt0ux|x2uTVt3ux|x2uTVtCux|x2uTVtQux|x2uTVtXux|x2uTVt=ux|x2uTVuBux|x2uTVt?ux|x2uTVuFux|x2uTVv",
    "vux|x2uTVwsux|x2uTVx)ux|x2uTVz!ux|x2uTVz8ux|x2uTV#jux|x2uTVzNux|x2uTV%Dux|x2uTVy&ux|x2uT[8N|x2uT",
    "yhVt3|x2uTyhVtC|x2uTyhVtQ|x2uTyhVtX|x2uTyhVt=|x2uTyhVuB|x2uTyhVt?|x2uTyhVuF|x2uTyhVvv|x2uTyhVtQu",
    "E|x2uTyhVt=uE|x2uTyhVt3ux|x2uTyhVvvux|x2uTvAt0t(|x2uTvAt0@AV|8Ct^|8CyD|8Cu_|8C#_|8CyP|8C%4|8Cut|",
    "8Cyv|8Ctn|8Cxu|8CwF|8Ctg|8Cwq|8Cxq|8CyC|8Cy#|8CzM|8Cz6|8Cy)|8CyN|8Cxe|8C#5|8Cwm|8C+0|8Cza|8C%.|8",
    "C!p|8C#eyD|8C#ewq|8C#ey#|8C#ez6|8CtcyD|8Ctcu_|8Ctcx$|8Ctcut|8Ctctn|8Ctcxu|8CtcwF|8Ctctg|8Ctcwq|8",
    "Ctcxq|8CtcyC|8Ctcy#|8CtczM|8Ctcz6|8CtcyN|8Ctcxe|8Ctc#5|8Ctcwm|8Ctcza|8Ctc!p|8C$Vu_|8C$Vut|8C$Vtn",
    "|8C$VwF|8C$Vwq|8C$Vxq|8C$VyC|8C$VzM|8C$Vz6|8C$VyN|8C$Vwm|8C$Vza|8C$V!p|8C$V#ewq|8C$V#ez6|8C!=yD|",
    "8C!=u_|8C!=x$|8C!=ut|8C!=yv|8C!=tn|8C!=xu|8C!=tg|8C!=wq|8C!=xq|8C!=yC|8C!=y#|8C!=zM|8C!=z6|8C!=y",
    "N|8C!=xe|8C!=#5|8C!=wm|8C!=za|8C!=%.|8C!=!p|8C!=#eyD|8C!=#ey#|8C!at^|8C!ayD|8C!au_|8C!a#_|8C!ax$",
    "|8C!ayP|8C!a%4|8C!aut|8C!ayv|8C!atn|8C!awF|8C!atg|8C!awq|8C!axq|8C!ayC|8C!ay#|8C!azM|8C!az6|8C!a",
    "y)|8C!ayN|8C!axe|8C!a#5|8C!awm|8C!a+0|8C!aza|8C!a%.|8C!a!p|8Ci-vHyD|8Ci-vHu_|8Ci-vH#_|8Ci-vHyP|8",
    "Ci-vH%4|8Ci-vHut|8Ci-vHyv|8Ci-vHtn|8Ci-vHwF|8Ci-vHtg|8Ci-vHwq|8Ci-vHxq|8Ci-vHyC|8Ci-vHy#|8Ci-vHz",
    "M|8Ci-vHz6|8Ci-vHy)|8Ci-vHyN|8Ci-vHxe|8Ci-vH#5|8Ci-vHwm|8Ci-vH+0|8Ci-vHza|8Ci-vH%.|8Ci-vH!p|8Cx^",
    "tg2ut2:=|8Cx^ut2#_|yLu6w+(d|yLu6vU(d|yLu6u7(d|yLu6u+(d|yLu6$6*L|yLu6*U*L|yLu6tE*L|yLu6t0tS)N|yLu",
    "6t3tS)N|yLu6tCtS)N|yLu6tQtS)N|yLu6tXtS)N|yLu6t=tS)N|yLu6uBtS)N|yLu6t?tS)N|yLu6uFtS)N|yLu6t0tS)G|",
    "yLu6t3tS)G|yLu6tCtS)G|yLu6tQtS)G|yLu6tXtS)G|yLu6t=tS)G|yLu6uBtS)G|yLu6t?tS)G|yLu6uFtS)G|yLu6t0tS",
    "$f|yLu6t3tS$f|yLu6tCtS$f|yLu6tQtS$f|yLu6tXtS$f|yLu6t=tS$f|yLu6uBtS$f|yLu6t?tS$f|yLu6uFtS$f|yLu6[",
    "LK|yLu6[Im|yLu6@5m|yLu6@yZ|yLu6[Uh|yLu6[V)|yLu6@r1|yLu6[fJ|yLu6@2Q|yLu6%7|v2u6t*%7|v2u6t*-!E-!E|",
    "v2u6t*-!E-!F|v2u6t*-!E-!G|v2u6t*-!E-!H|v2u6t*-!E-!I|v2u6t*-!E-!J|v2u6t*-!E-!K|v2u6t*-!F-!E|v2u6t",
    "*-!F-!F|v2u6t*-!F-!G|v2u6t*-!F-!H|v2u6t*-!F-!I|v2u6t*-!F-!J|v2u6t*-!F-!K|v2u6t*-!G-!E|v2u6t*-!G-",
    "!F|v2u6t*-!G-!G|v2u6t*-!G-!H|v2u6t*-!G-!I|v2u6t*-!G-!J|v2u6t*-!G-!K|v2u6t*-!H-!E|v2u6t*-!H-!F|v2",
    "u6t*-!H-!G|v2u6t*-!H-!H|v2u6t*-!H-!I|v2u6t*-!H-!J|v2u6t*-!H-!K|v2u6t*-!I-!E|v2u6t*-!I-!F|v2u6t*-",
    "!I-!G|v2u6t*-!I-!H|v2u6t*-!I-!I|v2u6t*-!I-!J|v2u6t*-!I-!K|v2u6t*-!J-!E|v2u6t*-!J-!F|v2u6t*-!J-!G",
    "|v2u6t*-!J-!H|v2u6t*-!J-!I|v2u6t*-!J-!J|v2u6t*-!J-!K|v2u6t*-!K-!E|v2u6t*-!K-!F|v2u6t*-!K-!G|v2u6",
    "t*-!K-!H|v2u6t*-!K-!I|v2u6t*-!K-!J|v2u6t*-!K-!K|v2u6tJ%7|v2u6tJ-!E-!E|v2u6tJ-!E-!F|v2u6tJ-!E-!G|",
    "v2u6tJ-!E-!H|v2u6tJ-!E-!I|v2u6tJ-!E-!J|v2u6tJ-!E-!K|v2u6tJ-!F-!E|v2u6tJ-!F-!F|v2u6tJ-!F-!G|v2u6t",
    "J-!F-!H|v2u6tJ-!F-!I|v2u6tJ-!F-!J|v2u6tJ-!F-!K|v2u6tJ-!G-!E|v2u6tJ-!G-!F|v2u6tJ-!G-!G|v2u6tJ-!G-",
    "!H|v2u6tJ-!G-!I|v2u6tJ-!G-!J|v2u6tJ-!G-!K|v2u6tJ-!H-!E|v2u6tJ-!H-!F|v2u6tJ-!H-!G|v2u6tJ-!H-!H|v2",
    "u6tJ-!H-!I|v2u6tJ-!H-!J|v2u6tJ-!H-!K|v2u6tJ-!I-!E|v2u6tJ-!I-!F|v2u6tJ-!I-!G|v2u6tJ-!I-!H|v2u6tJ-",
    "!I-!I|v2u6tJ-!I-!J|v2u6tJ-!I-!K|v2u6tJ-!J-!E|v2u6tJ-!J-!F|v2u6tJ-!J-!G|v2u6tJ-!J-!H|v2u6tJ-!J-!I",
    "|v2u6tJ-!J-!J|v2u6tJ-!J-!K|v2u6tJ-!K-!E|v2u6tJ-!K-!F|v2u6tJ-!K-!G|v2u6tJ-!K-!H|v2u6tJ-!K-!I|v2u6",
    "tJ-!K-!J|v2u6tJ-!K-!K|vzvk%7|vzvk@0@tS%$|vzvkt3tS%$|vzvktCtS%$|vzvktQtS%$|vzvktXtS%$|vzvkt=tS%$|",
    "vzvkuBtS%$|vzvkt?tS%$|vzvkuFtS%$|vzvkvvtS%$|vzvk?FtS%$|vzvkzKtS%$|vzvk$QtS%$|vzvk$NtS%$|vzvk@0@t",
    "S$l|vzvkt3tS$l|vzvktCtS$l|vzvktQtS$l|vzvktXtS$l|vzvkt=tS$l|vzvkuBtS$l|vzvkt?tS$l|vzvkuFtS$l|vzvk",
    "vvtS$l|vzvk?FtS$l|vzvkzKtS$l|vzvk$QtS$l|vzvk$NtS$l|vzvk$6@2Q|vzvk@0@tS%j|vzvkt3tS%j|vzvktCtS%j|v",
    "zvktQtS%j|vzvktXtS%j|vzvkt=tS%j|vzvkuBtS%j|vzvkt?tS%j|vzvkuFtS%j|vzvkvvtS%j|vzvk?FtS%j|vzvkzKtS%",
    "j|vzvk$QtS%j|vzvk$NtS%j|vzvkt7@2Q|vzvk@0@tS%i|vzvkt3tS%i|vzvktCtS%i|vzvktQtS%i|vzvktXtS%i|vzvkt=",
    "tS%i|vzvkuBtS%i|vzvkt?tS%i|vzvkuFtS%i|vzvkvvtS%i|vzvk?FtS%i|vzvkzKtS%i|vzvk$QtS%i|vzvk$NtS%i|vzv",
    "ktE@2Q|vzvk@.6|vzvk#n-v)|vzvk#n-um|vzvk#n-vo|vzvk#n-wk|vzvk#n-x4|vzvk#n-y3|vzvk#n-zP|vzvk#n-#*|v",
    "zvk#n-%6|vzvk#n-+F|vzvk#n-)]|vzvk#n-+G|vzvk#n-+H|vzvk#n-+I|vzvk#n-.M|vzvk#n-.N|vzvk#n-=I|vzvk#n-",
    ".O|vzvk#n-@0#|vzvk#n-@4^|vzvk#n-@4_|EvVxhwJ|EvVx0|Et0x0|Et3x0|EtCx0|EtQx0|EtXx0|Et=x0|EuBx0|Et?x",
    "0|EuFx0|zbos-qEvV|zbvDos-qEvV|ovV2$]|o#IQ|o+Z12@9S+O|uH750F|uH750t4|uH750tb|uH750tV|uH750f|uH750",
    "uV|uH750u[|uH750vB|uH750t6|uH750vt|uH750v3|uH750t+|uH750uz|uH750u5|uH750t1|uH750vQ|uH750x6|uH750",
    "tu|uH750tt|uH750u]|uH750n|uH750v5|uH750v(|uH750vj|uH750u?|uH750vR|!$zh(l750tt|om750tb|om750tu|o@",
    "Ir|o[fr|@!:B|ty750F|ty750t4|ty750tb|ty750tV|ty750f|ty750uV|ty750u[|ty750vB|ty750t6|ty750vt|ty750",
    "v3|ty750t+|ty750uz|ty750u5|ty750t1|ty750vQ|ty750x6|ty750tu|ty750tt|ty750u]|ty750n|ty750v5|ty750v",
    "(|ty750vj|ty750u?|ty750vR|ty@2G|ty?e|ty[R%|ty@44|ty[Ly|ty@VX|vDo750F|vDo750t4|vDo750tb|vDo750tV|",
    "vDo750f|vDo750uV|vDo750u[|vDo750vB|vDo750t6|vDo750vt|vDo750v3|vDo750t+|vDo750uz|vDo750u5|vDo750t",
    "1|vDo750vQ|vDo750x6|vDo750tu|vDo750tt|vDo750u]|vDo750n|vDo750v5|vDo750v(|vDo750vj|vDo750u?|vDo75",
    "0vR|zL@Ov1|zL[8#1|zL[Ao1|o@Iq|otb2@9S+O|o@7h(2|vDty750F|vDty750t4|vDty750tb|vDty750tV|vDty750f|v",
    "Dty750uV|vDty750u[|vDty750vB|vDty750t6|vDty750vt|vDty750v3|vDty750t+|vDty750uz|vDty750u5|vDty750",
    "t1|vDty750vQ|vDty750x6|vDty750tu|vDty750tt|vDty750u]|vDty750n|vDty750v5|vDty750v(|vDty750vj|vDty",
    "750u?|vDty750vR|#KvDty750vQ|vDty@7l|vDtytr|vDtyup|vDty#c|vDty@VX|l@&w|ty@y&|ty@!*|ty=:|ty@^Q|tyv",
    "l|ty#$|ty@3E|ty[UA|tytj2!nj|ty[e4|tytCtV|ty&u@0B|tyt3v3|tytQv3|tyt?v3|tytX!gt0|tyuB!gt0|tyws-t3!",
    "gt3|ty#jvQ|tyt0uEwsvQ|ty730tV|ty@@T|ty@@U|tyyG-[O:|ty[57|ty[TG|ty[bX|ty[d)|@8c@BtB|!vzRB0F|!vzRB",
    "0t4|!vzRB0tb|!vzRB0tV|!vzRB0f|!vzRB0uV|!vzRB0u[|!vzRB0vB|!vzRB0t6|!vzRB0vt|!vzRB0v3|!vzRB0t+|!vz",
    "RB0uz|!vzRB0u5|!vzRB0t1|!vzRB0vQ|!vzRB0x6|!vzRB0tu|!vzRB0tt|!vzRB0u]|!vzRB0n|!vzRB0v5|!vzRB0v(|!",
    "vzRB0vj|!vzRB0u?|!vzRB0vR|lu^@]9|tytO[2N|tytOup|tytfxkuD-@dj|tytfxkuD-@dF|tytfxkuD-@cS|tytO#7|ty",
    "tfxkuD-@EQ|tytfxkuD-@d5|tytfxkuD-@f)|tytfxkuD-@d7|tytfxkuD-@b!|tytfxkuD-@eC|tytfxkuD-@e+|tytfxku",
    "D-@e6|tytfxkuD-@cA|tytfxkuD-@dI|tytfxkuD-@c2|tytfxkuD-@e7|tytfxkuD-@c6|tytfxkuD-@fv|tytfxkuD-@fW",
    "|tytfxkuD-@f*|tytfxkuD-@d1|tytfxkuD-@cZ|tytfxkuD-@er|tytfxkuD-@dp|tytfxkuD-@dy|tytfxkuD-@by|tytf",
    "xkuD-@EP|tytfxkuD-@f:|tytfxkuD-@dH|tytfxkuD-@bz|tytfxkuD-@cT|tytfxkuD-@ds|tytfxkuD-@f+|tytfxkuD-",
    "@EY|tytfxkuD-@ft|tytfxkuD-@fu|tytfxkuD-@cV|tytfxkuD-@eq|tytfxkuD-@eL|tytfxkuD-@eK|tytfxkuD-@fZ|t",
    "ytfxkuD-@cE|tytfxkuD-@cq|tytfxkuD-@f?|!$zh(ltfxkuD-@eO|!$zh(ltfxkuD-@EP|!$zh(ltfxkuD-@EQ|!$zh(lt",
    "fxkuD-@dG|!$zh(ltfxkuD-@e%|!$zh(ltfxkuD-@EY|!$zh(ltfxkuD-@fq|!$zh(ltfxkuD-@cH|!$zh(ltfxkuD-@e1|o",
    "uD@oz|ouD@ol|%UBh)b|%UBh!u|%UBh[S+|%UBh%b|%UBh[T1|%UBh@ww|@#c|@.0|y5@0e|?o2[VG|@TtuR[Ah|@Tt|@I=!",
    "U@(R|[V+uR@IX|[OU|.d!U?o|%)zW|[d:|[9?+C|$%@22@*0-@o?|$%@22@pi|$%@22@qk-@q^|@222[93|vl!1B|@VW.m!1",
    "B|)ayr!1B|@VW@LV!1B|xh!1B|@VR@LV!1B|@8Fyr!1B|@VR.m!1B|.m!1|vl!12tv|)ayr!12tv|@8Fyr!12tv|xh!12tv|",
    "$_2tv|@=@x8|[S&x8|@UE|t7@J_|tE$_|tE$_23(p|tE$_@5t(p|tE$_@5t(p2+:|(p2+:|(p2@Ab|(p2?W|(p2[Z5|@+_|(",
    "d@IGtv|?7.t|[XK|@w4|@y6|[R:|@*2(Y|@%f(Y|:h(Y|@ws|?7@Q%|[aB|@y4@IF|[Pf|@@:|[V*|@IF|+btS[81|+btS:r",
    "|@@o|tQ#R@z2|[8H#R|@+K#R|#R@K$w*(d|[B1|[Y]|@q.|@?K|@O#|[e=|[XZ|[4E|@t[|[K^|$6@HU|*U@HU|[K8|[K5|@",
    "y3|[Ve|@@7|@T7tS[L6|@2(wi@1F|[Lp#z|:r@#9|:r&T|@!(:r|@#TP:r|[VM@5z|[UI|@IT|@K=@.Q|[PU@T!@RJ|@$[|[",
    "IN|[W4|@.P@S$|(w@5.2@0M@%)|%#*W@J4|[Sb*W|*W@J4|@(1|@J1|@yRu0|@w(|[4^|@#V|@]B@3Z|[S(|@u!tw|@3ZtS@",
    "1:|@!)|@1?P:J|[Xr@0i@Lt|[R9@1GP#t|@4h.[|@!Q.[|@Uk@J]|@H@@2?|@I?@H@[Aw|.V@1G|@1?P:J2[LC|@1G2[Lh@!",
    "?|[Lf|(N|[fb[L)|@vD@5.|?F-t1-@NU|@60(Y|@Kr@60|@+x|@+w[UK|.W|@9b[Lg|@!n&T|[XX(Y|#K@+)|[K]@Jh|*Y@J",
    "*|@x1[Vf|(d@yF|!1[dt@xq|@AA[Rc|@?G@1M|zc2#mwiyOc|@IQtS@+@|@8p?a|[O$(N|d?O2@_L|[Vm@O:|+v[T#|.k[2D",
    "|@1C@Hcd?s|@1C@6gd?s|@Kv@.L|@ow[Yg|@x0)g|@+f@4g|@S8@!O|@+!?:P(w|@O:|[Ak@1J|@yw|@@W|@qc[JK|xx+p|@",
    "yz@A^|[Yf|@y*=a|[KQ@Hb|@VF@L6|@6i@L.|[T(@8X|@v8|@L6*I|@vf|=+vz@w^|d!f|&9d?s|[Rn|@?Z|d?O|[Zl|[dx|",
    "d[Rv|@A3@Sw2[Rb|@U4@RqP&T|@T6P@T6@IO|@uCP@]E|@y2$h|[T[|[P^|[W1|[Ud?a|[Zk|)g@9.|@ph@K(|[P=@K(|[WC",
    "|=A[4e|@?3|@9.[Ad|@9.*C|@J5@5oP&T|[d=|@Ku@L@*?P&T|*W@L@*?P[MK|@A=@U4[JAP&T|@Ab@w?*l|@w$|@uj2@0e|",
    "=c@6D|:5@IX|@I=|@%&:5=c|@y.=c|@Jp|@Jp@_B|@PQ[Jz|[V7|:5=c|:52@:f|@9L=c|*Y++@9L|@Kl++@9L|@]J|@5n|@",
    "r0[X#@8X|@M2|@8R@M2|@!&@Ti|@AA|@%#@Ti|@+C|@_K@NU|*Y@5@|@Kl@5@|tE@Q!|t7@Q!|@BltE$h|@Blt7$h|@A1|t7",
    "@A1|[3j|@tz@RqP[TE|.cPQ|@pl|)Wt8=($X-v)-um|)Wt8=($X-vo|)Wt8=($X-wk|)Wt8=($X-x4|)Wt8=($X-y3|@3n|+",
    "#|@3I|%)@v*|=l|@4G|[4G|@Rp|%@|*L|@#D|@Va|[T=|@40|)g|@3m|@7P|@AK|?c|[Pd|@yB|.t|@3U|@IH|@6x|[IM|.1",
    "zh|@v+|@p@|@]C|[3q@H[|(w|@Uk(w|@vS|@0a|@@M@5^|.V@5^|&3-%l.V@5^|@1E|[KJ|[2G|[Ld|@(6@Ih|@tx@Ih|@&?",
    "|+#tv|=ltv|@4Gtv|@Rptv|%@tv|*Ltv|[Uf@Va|)gtv|?ctv|.ttv|@3Utv|@79tv|@@9tv|[fNtv|@H=tv|[JZtv|@3U(H",
    "|@9c[L?|@yI|!o|(v|+b|(H|xn|$v|tEtjt[*6t&|tEt$t[*6t&|tEct[*6t&|tEZt[*6t&|@+#tB1|@BltB1|@3EtB1|@4F",
    "tj1|@4Ft$1|@y+)e1|uj)e1|@J9|@4i+p|@*K|[Cz|u]-@Sw|@_V|@J[|[1%|@v6|@4i@66|[MZ|@@A|[Lo|[8B+]|@qz+]|",
    "uA-@@d+]|@4i@SS|@4i@vX|@.7|@w8w*@3=|@w9w*@3=|@vh|@=$|#U|+D|@Kp|#UP+D:2)e|t3(F:2)e|t3[fO:2)e|@3X[",
    "IQ|+D2@v]@KE|@vu2[dX|#V2@vQ+o|#U2@?Sxi[8G|#U2@U%|@9M#U|@9M+D|.V|@6D[fT|[L=|*Y[IS|*Y@=_|@7L|.V@pt",
    "|@*G@HB|@HB[AS|@^o|@AX|@7p@%*#V|@?W|@$?|[4w|[B(@9q|tv[8X|@@0|@u4?:|[WV|[K:|:Ij|@8R0|uk|@:%@At|:I",
    "|@IQ|@#52zc|[e^|@uozc|.ezc|t3$l|[UMzc|@?Rzc|zc2Q|*9zc|*Uzc|@0lzc|@9yzc|zc2(N|@R@$l|zc@Jh|x@[SY2F",
    "tA$3|@1zu2@v.|@5aB|@vV|@AYB|@!XB|[UY@4BB|@J_|ycB|[K.tS??|@+=@u^|@J&B|.0.W|@B4.W|tE=+|uE[LWB|@8t@",
    "17|&]@*6|tT+Z1|@6Kvk|@1A2@0m1|@1A2+Z1|@1A2@6%1|@1A2@3a1|@8t2[fG|=g2u:@BNP@0m1|[R)|@Q*@6B|@vv|[9_",
    "|@1+=r|@QUx!|@(W|=&+i|uj=&+i|(=2#L|(=%ltj|@5:|@U0-@9K@5:|vkt&|=g2u:@BN|=g2u%@BN|u0=g|@y]|@9z|$:@",
    "9z|[Jr|z7@SG|#Z@SG|@IM[XJ|[48|@P*|@P*2@%h@6I|y5.b|uj.b|*U.b|*9.b|:d.b|@vW|*o@ty|[R!|[8]|&z@3o|[J",
    "C|@6=@8X|@SW@HM|[MJ@or[5B|@x?[8+|[Iz@Uc|@^q@Uc|[J8|f-[7@B|@^t)X|)X2u%Qg|y5@2!2@N%$h|y5@2!2zL$h|u",
    "j@2!2zL$h|uj@2!2@N%$h|[Ll|@3YzJ|@Pc|?b@3T|?b@3T2tlQ!Uc|[dn[AD|?b@3T@9K|xo?b[Kr|@HM2=W|@1J|@1J2@+",
    "+|@VF@1J|[X!|@Rr|[do|@Kv[M3|[Li[VP|[L!@uk|[aXtl$a|$$tlPt:ujtx$a|$$tlPt:ujtx$a2ot0#C|$$u%Pu:ujtx$",
    "a|#Iu%Pu:ujtx$a|t_@IVB|uA@IVB|+_2@1KtM|+_|+_2t0$tzW|+_2tC$t@Bk|@H(|@1z[LI|c-t[@Oj.[|Z-t[@Oj.[|@2",
    "w2@^(:k|y5@2w2)k|)k|@2w|uj@2w|+R|+R2@1KtM|@IM|@NsB|@Rr.h|%72t:Qg|zm2t:Qg|wi2!nj2cZQg|[U62tlQg|xx",
    "2u:Qg|xot0)9)VB|@M&vv|?ABh75@8L|?ABh73@8L|?ABh[GJ|?ABh@A+|?ABh7@8L|(4|@1z[Z4|@Vh|@29|@Q0P@5x|@]7",
    "|[L4|[9#|[Xz|@#J&T|t=y(x82tRtA|*YBh@uu|@0W@)i|t7l.h|tEl.h|vT$6tx|vT*9tx|vT:dx@|vT*9x@|3:dx@|3*9x",
    "@|tj-t[$6tm|t$-t[$6tm|tj-t[3$6tm|t$-t[3$6tm|t)Z$7tEtx|t@Z$7tEtx|oxg@9r|xg@9r2t(-txt9|xg@9r|(:c@0",
    "C2tCp|(:Z@0C2tCp|Bh[8M@x(|tE7xg|tT7xg|@xgxg|&BB|@J=tS@9d|[0a|[Aa|[WO|[902uF@vo|@5ztS@].|!Vtvt0&p",
    "|!Vtvt3&p|!VtvtC&p|!VtvtQ&p|!VtvtX&p|!Vtvt=&p|!VtvuB&p|!Vtvt?&p|!VtvuF&p|!Vtvvv&p|!Vtv&1&p|!Vtv%",
    "2&p|!Vtvt0-x)|!Vtvt3-x)|!VtvtC-x)|!VtvtQ-x)|!VtvtX-x)|!Vtvt=-x)|!VtvuB-x)|!Vtvt?-x)|!VtvuF-x)|!V",
    "tvvv-x)|!Vtv&1-x)|!Vtv%2-x)|Z+_|Z+_2t0$tzW|Z+_2tC$t@Bk|@IY|@IY2$t@Bk|[PJ+R|.b|@w&|[8E!V|t7@AXP@J",
    "7|xo[L1|@L[|#Uw*@w6)$[4L|[TzvM[Um|@JS@Ts|@TT|@TT[e]|@__|#U@$@|ctB&z@3o|&z@3o2(=|ZtB&z@3o|tE@UX&z",
    "|t7@UX&z|&zwixxtS[AG|@y)?b@3T|%7tS)X|@Td)X|)X2?W|@73)X|:kuR@Td)X|[4t[Js|t7@9z|t)c@3P|t)c@t@:k|t)",
    "c@K.:k|t)c[JF|t)c@#A|c@VitB|ul@3EtB1|zLtB2zo@TW|vczLtB2zo@TW|vc@4Ftj1|vc@4Ft$1|vc@VDtB|vctB2tR%o",
    "#N|zLtB2@9a!ktRPukzo|tEt$t[ctBt&|$8tEct[t&|$8tEZt[t&|$8t7ct[t&|$8t7Zt[t&|t7ct[*6t&|t7Zt[*6t&|$8t",
    "Etjt[t&|$8tEt$t[t&|$8t7tjt[t&|$8t7t$t[t&|t7tjt[*6t&|t7t$t[*6t&|t7zc|@Jq@6B|?OP+#|tC[C.@!m|@RO|[L",
    "Q@wz|t7(#zh@1+=r|tE(#zh@1+=r|%#zh@1+=r|@T=@x5|[fK?O|t0.h+#|t3.h+#|tC.h+#|[ZD|e@Q*@6B|(#=r|@0B|@R",
    "O@7m|@6=@7m|@QUx!@7m|=u2)&|=u2)&P@9k|=u2@9k|@1[2@9k|@1[2[Yk|@1[2yzvj|t7+i|+i|uj+i|vkt&@&q|vk=&tw",
    "|=&@wq|%E!f|%E!f(=|%E!f?#|!f|!f(=|!f?#|%E=u|%E(=|%E@Qh|=u|(=|@Qh|[e+|.1!f?#|.1@5:?#|@Jq@Vc|[A0|[",
    "8i|@9T|$$ZPc@0C$a|@1Kvj|@7o@K&@T3B|@Ji@K&@T3B|@!l|e)k|[PZ-tj@Pc|(=2o)&|@As=g|+T:J|*f|[UQz@w*@3=|",
    "tC(Mg|tC(Mt9|tC(Mc|tC(MZ|c.0)J|Z.0)J|t3.0@5&|tC.0@5&|c@B4)J|Z@B4)J|c@5a)J|Z@5a)J|@8x)J|?W@8x)J|?",
    "W@8x|%=tw2%=|%=uhvj|%=tw2uhvj|%=Ruhvj|%=tw2Ruhvj|u2%hj|%=tw2R%h|[fU?X|[Ag@.U|[Y@[ZA|[VJtS[4W|@3=",
    "tS@_R|[Am|?1tv|?1tv2#3!o|tv2@A]tS@7(|#3tv2ujxn|#3tv2ujxnP#3!o|#3tv2ujxnP@68@4B|#3tv2ujxnP@UH-y5!",
    "o|#3tv2@@4|#3tv2@M0|@Vetv|#3tv2#3!o|tv[Rj@%s@1:|@R*tv|#3tv2zc-%!!o|#3tv2@Ts|[T.tv|yYtv|@*Etv|[bj",
    "tv|tv2@68@4B|[KMtv|@!qtv|@!ptv|@2Ztv|tv[YQF:I|@2Ztv2#3!o|@2Ztv2y5!o|tv2@Ay-$5$v|tv2@Ay-$5$vP@Ve(",
    "v|tv2@Ay-$5$vP@UH-y5!o|@J!tv|[fWtv|@pwtv|@9ttv|@6Mtv|[KStv|tv2[51tS[Zc|@J!(m@R*tv|@1^tv2ujxn|@py",
    "tv|@+Vtv|@VYtv|[Tytv|[Yvtv|@?Ptv|[5A@6Mtv|tv2ujxn|@]etv|tv2ujxnP@68@4B|tv[Ryw*@+U|@qstv|@+]tv|@A",
    "Ytv|@J&tv|tv@0ixn|tv2[8%@8c|?1%@tv2#3!o|%@tv2@A]tS@7(|#3%@tv2ujxn|#3%@tv2zc-%!!o|%@tv2[ff@0G|@2Z",
    "%@tv2y5!o|@9t%@tv|@6M%@tv|@VY%@tv|@3^@1^tv|@3^#3tv|[b&-t$tv|tv2@S9!o|tv2xo@?6@LL|tv2@3E@LL|#V@ve",
    "@%k|*(-xo-@6(?c|@@Y-xo-@6(?c|[UP-xo-@6(?c|@@H#V@Rst0tB|#V@Rs@IP)ew*@xe|#V@1^|#V2@9ttv|#V2@.1)e|u",
    "+u7t[#R|vUu7t[#R|u+w+t[#R|vUw+t[#R|ulu+u7t[#R|ulvUu7t[#R|ulu+w+t[#R|ulvUw+t[#R|u+u7t[)=#R|vUu7t[",
    ")=#R|u+w+t[)=#R|vUw+t[)=#R|tTu+u7t[)=#R|tTvUu7t[)=#R|tTu+w+t[)=#R|tTvUw+t[)=#R|u+u7t[*A|vUu7t[*A",
    "|u+w+t[*A|vUw+t[*A|tTu+u7t[*A|tTvUu7t[*A|tTu+w+t[*A|tTvUw+t[*A|@L]@3ilw$|@L]@3ilw$w*t7l|@TJ@3ilw",
    "$|@TJ@3ilw$w*t7l|t:@06|u:@06|tl@06|u%@06|uhY&2w$|tTuhY&2w$|Yuj&2w$|tTYuj&2w$|tT*1w$|:.*1w$|s-qtT",
    "iulx0z(jw$|s-qtTix0z(jw$|s-qtTt_ix0z(jw$|tT?Bw$|s-q?Bw$|tTs-q?Bw$|zutT#4|zutT#i#4|@1O=a|#i@1O=a|",
    "@06|@@h|@Tg@Nz|@3l*C|uA-@TS@BL|uA-@TS@BL2%f(H|@BL|[9D|u2[OT|[VI|@Ua|@Ua*C|@5)|?x@5)|[Zf|@5)wJ|[9",
    "^|@pg|(4@KZ|@3X*C|?x@3X*C|@T[|?x@T[|@Hk|?x@Hk|[Or[dW|@%u@BO|@qb[55|[ZE|[AQ|*l@3l|@A&@3l|*l@wr|@o",
    "([ZH|@AN|[Pi|[UR|t*@0Vu2|tJ@0Vu2|@6D1|@3X@x4@R@u2|#Z$hwi++|@J:|xo=!1|@TDB|xo@TDB|@9!@Nww*@_E+)B|",
    "#Mwx@NwB|@RI%)B|@34-@RI%)B|@u_|xo@v0|@I2|*l@I2|@Qy|xo[K9|@yDzZ|[91B|[fPB|[O[|.VB|[Y?|%)@z0|[S:|@",
    "5p|@H&|[J..k|@#X|@t%@y(|c@N(|tm2%U.l|[M01|o@7p@Af|@viB|@=%B|@#2P@NP|@AY@om|@Sz@t&|@uy+R|@uq|+)tS",
    "[fX|[IK1|@Sz[Ze|[Vo|[JD|@@][X%|@]f|@)c|[LD[T!|@4g|uk@w1|@29P@Vh|@AM|@3D.u|[Af|@3l@UY|@P5@II|tj-t",
    "[@8p*0|tj-t[*0|tj-t[3*0|3*0|[F7-t[*0|*0@Jn|*0@qX|@SW|?x(4@KZ|@&K@Nz|[J*@AN|@SZ|@P5@SZ|@w.|[Tw|@7",
    "3[Rg|[Tn|@q_[P9|[K#@BO|@S8@T5|urBh[NV|urBh.Q|urBh(4|urBh$%|urBh%)|urBh@qE|urBh@12@R(|urBh@12@R(-",
    "um|urBh@12@VJ|urBh@12@VJ-um|urBh@4c|urBh@4c-um|urBh@4c-vo|urBh@A#|urBh[Km@A#|urBht7@A#|urBh@2*.3",
    "|urBh@2*.3-um|urBh@2*.3-vo|urBh@yx|urBh(P|urBh[E6|urBh@VK|urBh@VK-um|urBh@9_(P|urBh@9_(P-um|urBh",
    "@23|urBh[Ta|urBh?D*u|urBh?D*u-um|urBh@6LtS?D|urBh+=tS?D|urBh*E*u|urBh?D-*E*u|urBh.3tS*E|urBh@6Lt",
    "S*E|urBh@6LtS*E-um|urBh*E@HN|urBh(PtS*E@HN|urBh.3tS(PtS*E|urBh[da|urBh[Yn*u|urBh[45*u|urBh+M*u|u",
    "rBh.3tS+M|urBh(PtS+M|urBh.3tS(PtS+M|urBh@4ctS+M|urBh+=tS+M|urBh+=tS+M-um|urBh+=|urBh+=-um|urBh+=",
    "-vo|urBh+=-wk|urBh@HC|urBh@HC-um|urBh[8J|urBh(O-@pj|urBh@qY|urBh@Rz|urBh@Rz-um|urBh@q[|urBh@vI*u",
    "|urBh@T?|urBh@T?-um|urBh[NS[4m|urBh@5y|urBh@5y-um|urBh@5y-vo|urBh@pc|urBh@3D|urBh@41|urBh[Yp|urB",
    "h@7T|urBh@VV|urBh[Ls|urBh@w!|urBh[aR|urBh@w][AZ|urBh[RstS@_[|urBh@Ie|urBh@0W|urBh[VF@0W|urBh[4?|",
    "urBh@TE|urBh[b:|urBh)g@K0|urBh@Hd|urBh@3Z@Hd|urBh@5$|urBh[Lt@5$|urBh@pd|urBh@46@Tu@46|urBh@46@Tu",
    "@46-um|urBh[Vy|urBh[L$|urBh@&k|urBh@J$|urBh@J$-um|urBh[MW|urBh[Me|urBh=m|urBh=m-um|urBh=m-vo|urB",
    "h=m-wk|urBh=m-x4|urBh@H8|urBh@5ptS[8T|urBh@5ptS[dI|urBh[O^|urBh!r|urBh?o|urBhzQ-?o|urBh@8v|urBht",
    "(@J@|urBht(@Qa|t7c-t[@2NZtm|t7tj-t[@2NZtm|t7Z-t[@2NZtm|t7t$-t[@2NZtm|t7@3^3tx|u&RtEtx|RtEtx|tTtE",
    "tx|zutTtEtx|.*tTtEtx|tEtx)Qt73tx|$:@A@|t7@0Tl|t7@3^3l|u2tEl|u&tEl|RtEl|tTtEl|zutTtEl|.*tTtEl|tEl",
    ")Qt7zu3l|tEl)Qt7u&l|l@A@|t7@0Tx@|t7zu3x@|t7u&3x@|tEx@)Qt7zu3x@|tEx@)Qt7u&x@|x@@A@|t7@0T&5|t7zu3&",
    "5|t7u&3&5|tE&5)Qt73&5|@4Eaxg|u2axg|u&axg|Raxg|zuRaxg|zutTaxg|.*tTaxg|@4E(Q|u2(Q|u&(Q|R(Q|tT(Q|zu",
    "tT(Q|.*tT(Q|u2tX!Ay4|u&tX!Ay4|RtX!Ay4|tTtX!Ay4|zutTtX!Ay4|.*tTtX!Ay4|u2t=!Ay4|u&t=!Ay4|Rt=!Ay4|t",
    "Tt=!Ay4|zutTt=!Ay4|.*tTt=!Ay4|u2t?!Ay4|u&t?!Ay4|Rt?!Ay4|tTt?!Ay4|zutTt?!Ay4|u2tCy(t7x8|u&tCy(t7x",
    "8|tCy(t7x8|u&tCy()tx8|u2tQy(t7x8|u&tQy(t7x8|tQy(t7x8|u&tQy()tx8|#iu2tQy()tx8|u2tXy(t7x8|tTtXy(t7",
    "x8|u&t=y(t7x8|tTt=y(t7x8|t=y()tx8|u&t?y(t7x8|tTt?y(t7x8|zutTt?y(t7x8|tTt?y()tx8|u2%2y(t7x8|tT%2y",
    "(t7x8|tT%2y()tx8|otm|vDotm|ol|vDol|vT:dtx|vT@0ltx|vT*Utx|vT@9ytx|vT@5%tx|vT$6l|vT*9l|vT:dl|vT@0l",
    "l|vT*Ul|vT@9yl|vT@5%l|tTz21|t:Q23tmw6|u:Q23tmw6|tlQ23tmw6|u%Q23tmw6|t:Q2u&tmw6|u:Q2u&tmw6|tlQ2u&",
    "tmw6|u%Q2u&tmw6|t:Q2vTtmw6|u:Q2vTtmw6|tlQ2vTtmw6|u%Q2vTtmw6|t:Q23!_w6|u:Q23!_w6|tlQ23!_w6|u%Q23!",
    "_w6|t:Q2!_w6|u:Q2!_w6|tlQ2!_w6|u%Q2!_w6|tTt:Q2!_w6|tTu:Q2!_w6|tTtlQ2!_w6|tTu%Q2!_w6|tTt:Q2vT!_w6",
    "|tTu:Q2vT!_w6|tTtlQ2vT!_w6|tTu%Q2vT!_w6|t:tm-u9Q2:X!x|u:tm-u9Q2:X!x|tltm-u9Q2:X!x|u%tm-u9Q2:X!x|",
    "t:tm-u9Q2u&!x|u:tm-u9Q2u&!x|tltm-u9Q2u&!x|u%tm-u9Q2u&!x|t:tm-u9Q2R!x|u:tm-u9Q2R!x|tltm-u9Q2R!x|u",
    "%tm-u9Q2R!x|t:tm-u9Q2tT!x|u:tm-u9Q2tT!x|tltm-u9Q2tT!x|u%tm-u9Q2tT!x|t:tm-u9Q2zutT!x|u:tm-u9Q2zut",
    "T!x|tltm-u9Q2zutT!x|u%tm-u9Q2zutT!x|t:%o-++Q|u:%o-++Q|tl%o-++Q|u%%o-++Q|t:tyQ|u:tyQ|tltyQ|u%tyQ|",
    "t:*DQ|u:*DQ|tl*DQ|u%*DQ|t:tT*DQ|u:tT*DQ|tltT*DQ|u%tT*DQ|t:tTQ|u:tTQ|tltTQ|u%tTQ|t:s-qQ|u:s-qQ|tl",
    "s-qQ|u%s-qQ|u+u7s-qQ|u+w+s-qQ|vUw+s-qQ|vUu7s-qQ|cZs-qQ|tjt$s-qQ|xf-u9t:u2u)Q|xf-u9u:u2u)Q|xf-u9t",
    "lu2u)Q|xf-u9u%u2u)Q|xf-u9u+u7u2u)Q|xf-u9u+w+u2u)Q|xf-u9vUw+u2u)Q|xf-u9vUu7u2u)Q|xf-u9t:u)Q|xf-u9",
    "u:u)Q|xf-u9tlu)Q|xf-u9u%u)Q|xf-u9u+u7u)Q|xf-u9u+w+u)Q|xf-u9vUw+u)Q|xf-u9vUu7u)Q|xf-u9t:u&u)Q|xf-",
    "u9u:u&u)Q|xf-u9tlu&u)Q|xf-u9u%u&u)Q|xf-u9u+u7u&u)Q|xf-u9u+w+u&u)Q|xf-u9vUw+u&u)Q|xf-u9vUu7u&u)Q|",
    "xf-u9t:tTu)Q|xf-u9u:tTu)Q|xf-u9tltTu)Q|xf-u9u%tTu)Q|xf-u9u+u7tTu)Q|xf-u9u+w+tTu)Q|xf-u9vUw+tTu)Q",
    "|xf-u9vUu7tTu)Q|xf-u9t:zutTu)Q|xf-u9u:zutTu)Q|xf-u9tlzutTu)Q|xf-u9u%zutTu)Q|xf-u9u+u7zutTu)Q|xf-",
    "u9u+w+zutTu)Q|xf-u9vUw+zutTu)Q|xf-u9vUu7zutTu)Q|t:tmw6|u:tmw6|tltmw6|u%tmw6|t:tEQ.Jtmw6|u:tEQ.Jt",
    "mw6|tltEQ.Jtmw6|u%tEQ.Jtmw6|t:Q2(:wK|u:Q2(:wK|tlQ2(:wK|u%Q2(:wK|tTQ!x(ct0|tTQ!x(ct3))|tTQ!x(ct0t",
    "(|tTQ!x(ct0%%|t:yw-)1tEQ|tlyw)1tEQ|t:xx)1tEQ|tlxx)1tEQ|t:c-)1tEQ|tlZ-)1tEQ|t:Z-)1tEQ|tlc-)1tEQ|t",
    ":%7-:[$7tEQ|tl%7-:[$7tEQ|t:&3-:[$7tEQ|tl&3-:[$7tEQ|tEQ!x(ct0|tEQ!x(ct3))|Qt[u:)(u+u7|Qt[tl)(=ovU",
    "u7|oxg@772tQp|oxg@772t3p|oxg@77|ct(tx2tQp|ct(tx2tCp|ct(tx2t3p|ct(tx2tA|ct(tx|@1q%ltW|@1q%l(:tW|@",
    "1q%ltW2tA|@1q%l(:tW2tA|[K@zo|tEzc|@5%zc|[K[tB|[i^-xntv|@8t-xntv|tv2@UE|[C)tv|[YJtv|tv2z@-@H#|[PW",
    "tv|@M4tv|1tSyO@M0|@5=y[tB|zL%7tStB|c-%luW|Z-%luW|@@D|tB2t&PtRzo#K|t6@8R[hRtB1|tv2@#6+p|@z3tv|[B^",
    "tv|@S9wiyO$F[3@|@(7tv|[5Xtv|tv:h|[T@tv|tv2t0@*JzL|?1tv2x8!o|?1tv2t0vTPt03(v|tv2%o@6Jy5*f|[S7tv2@",
    "A+@6Jxn|#3tv2#3!oPtB@6Jxn|tv2ujxn[d]|[S!tv2@*Cz@|@9u+D|@vs-@+Y|[JOtj@4J|[R[|[L:|#Uw*[aU|@P4@60|[",
    "T0|#V@&+@x6|[04|@+d|[AH[KO|[fd|%)[La|@@B|@&s@8c|[fE=+|.u2@(9|@I?@=.|[aD.[|@Ai|*T:Z|[PB|)a+)?a|&u",
    "+)?a|%%+)?a|@vg@==|[8Q@Hb[bu|@#S@At|[3o*?P&T|[U0|@73x!|@#E|@r5|@#L|@tw|@RJ|@x3|@t(@IT|*U[RI|[ST@",
    "9WtS@1:|[Vn@Ky|@KJ|.[tS[9=|[K7|[1^|[JY|@(G|@.G@J1|[XRtw|@yV|@5z2@Ai|#t2[Vd|@!R|@vy|@Q_|[L+|@6QtS",
    "@2(|[RU|@w+@1:|[47*U|[88|!1@5.|@t$|#3tv2#3!oPtC$l|[g?tv|#3tv2@U0|tv2@9bzJP@9b+p|tv2[br!oP(bxn|[I",
    "#tv|@.Ntv|[D^|@&htv|tv:2%7@A]|tv2[LE!o|@SV|[3h@I@|@?0|@@[@IO|zI+]|@#8|[4vtv|[Rw|[aK|[bttv|@KD|@(",
    "B|@5o|[Sa|[I$|@K:tv|@wB|@6c|@?B|[4$|[P5|@S$|[Uo|@=#tv|[iXtv|@@b|[Ri|u]-@R[|@J5|[0t|[4%|[K6|@@^|[",
    "J!|[OH|[4:|[Ab|[9!|@Hz|[WA|[84|@&*|[T)|[Ix|[Il|[Tr|@+*|[I(|@5s|@vJ|@AB|@?Y.t|[L[@w)|)WI$6+o|)WIz",
    "1+o|)WI@t=|)WItE+o|@1F|#z|@1=|@4K|[V[|[V^|@A4[dd|+b2@@Z@p9|[Ae@Bp|[8F@Bp|@Oy#J|@Oy#z|@x@@Bm|@#O|",
    "(P[SR|@H_tw|@:g|[IY|@+J|[ex|@wA|[8b@J]|*W@6O|)J[Xq|[Zd|[VC#V|[2C#V|@%b#V|tv2[AP|@G@|@5_|@9M@G@|@",
    "un#V|#V2@@X|#Vw*[VN[Pc|#V@y@|#Vw*@2z:m|[7)|@+H|[dG|[94|@)e|@:+|[j4|@vm|:dzc|@v7@1M|[Rr|@=?|@I@|[",
    "T_|$6@=w)X|@+v|@_l[Mh)s|[X.[a8|[Kb#8|@&(i@@i|@!h|@og|(4@*F|[Z1|@5$|[7+|@N(|[59@1G|[UctS@B5|&TtS[",
    "g$|@A4@R1|[Xt@H=|@v!|@uB|[PYtS@3K|u0tS@TE|[Ub|[Om|[C3@pn|yYvK$N|yYvK$Q|yYvK%x|yYvK%e|yYvKzK|yYvK",
    "&r|tEvKzKw%z!-tXxc|t7vKzKw%z!-tXxc|yYvKzKw%z!-tXxc|tEvK$Nw%y&xc|tEvK$Qw%y&xc|tEvK%xw%y&xc|tEvK%e",
    "w%y&xc|tEvKzKw%y&xc|tEvK&rw%y&xc|t7vK$Nw%y&xc|t7vK$Qw%y&xc|t7vK%xw%y&xc|t7vK%ew%y&xc|t7vKzKw%y&x",
    "c|t7vK&rw%y&xc|yYvK$Nw%y&xc|yYvK$Qw%y&xc|yYvK%xw%y&xc|yYvK%ew%y&xc|yYvKzKw%y&xc|yYvK&rw%y&xc|tEv",
    "KzKw%t0uEx)-tXxc|t7vKzKw%t0uEx)-tXxc|yYvKzKw%t0uEx)-tXxc|tEvKul$N|tEvKul$Q|tEvKul%x|tEvKul%e|tEv",
    "KulzK|tEvKul&r|t7vKul$N|t7vKul$Q|t7vKul%x|t7vKul%e|t7vKulzK|t7vKul&r|yYvKul$N|yYvKul$Q|yYvKul%x|",
    "yYvKul%e|yYvKulzK|yYvKul&r|tEvKzKw%t3uEws-tXxc|t7vKzKw%t3uEws-tXxc|yYvKzKw%t3uEws-tXxc|tEvK$Nw%t",
    "3uEzNxc|tEvK$Qw%t3uEzNxc|tEvK%xw%t3uEzNxc|tEvK%ew%t3uEzNxc|tEvKzKw%t3uEzNxc|tEvK&rw%t3uEzNxc|t7v",
    "K$Nw%t3uEzNxc|t7vK$Qw%t3uEzNxc|t7vK%xw%t3uEzNxc|t7vK%ew%t3uEzNxc|t7vKzKw%t3uEzNxc|t7vK&rw%t3uEzN",
    "xc|yYvK$Nw%t3uEzNxc|yYvK$Qw%t3uEzNxc|yYvK%xw%t3uEzNxc|yYvK%ew%t3uEzNxc|yYvKzKw%t3uEzNxc|yYvK&rw%",
    "t3uEzNxc|tEvKzKw%tCuE(1xc|t7vKzKw%tCuE(1xc|yYvKzKw%tCuE(1xc|tEvK.%|t7vK.%|yYvK.%|tEvK.%w%y&xc|t7",
    "vK.%w%y&xc|yYvK.%w%y&xc|tEvKzK-$Q|tEvKzK-%x|tEvKzK-%e|t7vKzK-$Q|t7vKzK-%x|t7vKzK-%e|%+$6@LG|%+$6",
    "@Om|%+$6@6x|%+$6)g|%+$6=f|%+$6@Ij|%+$6@TI|%+t7@LG|%+t7@Om|%+t7@6x|%+t7)g|%+t7=f|%+t7@Ij|%+t7@TI|",
    "@t?[S#|t0-)s[WE|@vw|@3.|@UG@SS|@6qtS@IE|@ot@H#|[VQ|vj-@9?|@#H|xX-xX|[1@|[Ju|@IN|[7*[e#|[K?|[C+@J",
    "*|[PI[LA|@Iz|[Oj|@5i|@&v@NP|@t_|@8p@2C|@on|ug.u|@!V|@Ik@A7|[Rz|[3p|tW|@O^|@Vc|[LM|[SG[C!|[2E|@v(",
    "|+#[ZK|[Z3|@Lx|[L8|@9_|@O^&T|@MGvk|t_@H(|@@8|@72|[fV|@H[|@!P|[Ln[LB|@Bs|@1)|@2z|@!=|%E@Pb|@Pb2@)",
    "P|@ppzc|[5I|@Q$@M4|@9u#U|@9u#V|#V2@J9|@vT|+R@Q%|@QO|@Ky|[XU|@.4|[Xs|[Lq@Nt|@um|@Ma|[8@tv|[RNtv|t",
    "v2uj!oPtBuRxn|tv2[KB(v|tv2ufxn|yFvLtv|@I8@2u|@5&|tB2t&%oPuO#K|tltB|t:tB|:ht$tB|:htjtB|t&t[!UyO[d",
    "s|zc)e|t%x7-v)|t%x7-um|t%x7-+G|t%x7-vo|t%x7-+H|t%x7-=J|t%x7-@0s|t%x7-wk|t%x7-+I|t%x7-=K|t%x7-@0t",
    "|t%x7-@5A|t%x7-@0w|t%x7-@0$|t%x7-@CU|t%x7-x4|t%x7-.M|t%x7-@0*|t%x7-@0u|t%x7-@5F|t%x7-@0%|t%x7-@C",
    "X|t%x7-@0=|t%x7-@0y|t%x7-@0)|t%x7-@Ca|t%x7-@5B|t%x7-@Ci|t%x7-@Do|t%x7-@CV|t%x7-y3|t%x7-.N|t%x7-@",
    "0.|t%x7-@0v|t%x7-@0:|t%x7-@0x|t%x7-@0&|t%x7-@CZ|t%x7-@5M|t%x7-@0z|t%x7-@Cc|t%x7-@5C|t%x7-@Ck|t%x",
    "7-@Dq|t%x7-@CW|t%x7-@5U|t%x7-@0!|t%x7-@0+|t%x7-@Cd|t%x7-@5G|t%x7-@Cl|t%x7-@Dr|t%x7-@CY|t%x7-@5K|",
    "t%x7-@Cs|t%x7-@Dy|t%x7-@Cb|t%x7-@E0|t%x7-@Cj|t%x7-@Dp|t)ct%uft)tRctGt)wv|t)ct%uft)tRctGt)Z|t)ct%",
    "uft@tRctGt)wv|t)ct%uft@tRctGt)Z|t)ct%uft@ctGt)wv|t)Zt%uft@tRctGt@wv|t)Zt%uft@tRctGt@Z|t)Zt%uft)t",
    "RctGt@wv|t)Zt%uft)tRctGt@Z|t)Zt%uft)ctGt@wv|t)Zt%uft)tRctGt@tRZ|t)Zt%uft)wvtGt)tRZ|t)Zt%uft)ctGt",
    ")tRZ|t)Zt%uft)wvtGt@tRZ|t)Zt%uft)ctGt@tRZ|t)Zt%uft)wvtGt@Z|t)ct%uft@wvtGt@tRZ|t)ct%uft@ctGt@tRZ|",
    "t)ct%uft@wvtGt)tRZ|t)ct%uft@ctGt)tRZ|t)ct%uft@wvtGt)Z|t)ct%uft@tRctGt)tRZ|t@Zt%uft)tRctGt)wv|t@Z",
    "t%uft)tRctGt)Z|t@Zt%uft@tRctGt)wv|t@Zt%uft@tRctGt)Z|t@Zt%uft@ctGt)wv|t@ct%uft@tRctGt@wv|t@ct%uft",
    "@tRctGt@Z|t@ct%uft)tRctGt@wv|t@ct%uft)tRctGt@Z|t@ct%uft)ctGt@wv|t@ct%uft)tRctGt@tRZ|t@ct%uft)wvt",
    "Gt)tRZ|t@ct%uft)ctGt)tRZ|t@ct%uft)wvtGt@tRZ|t@ct%uft)ctGt@tRZ|t@ct%uft)wvtGt@Z|t@Zt%uft@wvtGt@tR",
    "Z|t@Zt%uft@ctGt@tRZ|t@Zt%uft@wvtGt)tRZ|t@Zt%uft@ctGt)tRZ|t@Zt%uft@wvtGt)Z|t@Zt%uft@tRctGt)tRZ|t@",
    "PZPt)#ZtC%Rt%|cPt)PZ#ZtC%Rt%|t@PcPt)#ZtC%Rt%|cPt@PZ#ZtC%Rt%|c#Zt0yrt%|t@#Zt0yrt%|Z#Zt0yrt%|t)#Zt",
    "0yrt%|tJt0ymt%-um|tJt0ymt%-vo|tJt0ymt%-wk|tJt0ymt%-x4|tJt0ymt%-y3|tJt0ymt%-zP|t*t0ymt%-um|t*t0ym",
    "t%-vo|t*t0ymt%-wk|t*t0ymt%-x4|t*t0ymt%-y3|t*t0ymt%-zP|cPt)t0ymt%|cPt@t0ymt%|ZPt@t0ymt%|ZPt)t0ymt",
    "%|t@Pt)t0ymt%|t*t0ymt%-@Cm|t@t0yrt%|t@tC%Ct%|t@tX%Ct%|t@tC%Rt%|t@uB%Ct%|Zt0yrt%|ZtC%Ct%|ZtX%Ct%|",
    "ZtC%Rt%|ZuB%Ct%|ct(u&%V|Zt(u&%V|t@t(u&%V|t)t(u&%V|(7u&%V|t@t(t%Pt)t((7u&%V|t@t((7u&%VPt)t(t%|ct(",
    "(7u&%VPZt(t%|@1O=a$E|(7@1O=a$E|tTt*$E|t@ctGt)Z$E|t@ZtGt)c$E|t@Pt)#Zt(t%|cPZ#Zt(t%|t@c#Zu&%V|t@Z#",
    "Zu&%V|t)Z#Zu&%V|t)c#Zu&%V|twu8u2uft@wvtGtRc|twu8u2uft@wvtGtRZ|twu8u2uftRctGt)wv|twu8u2uftRZtGt)w",
    "v|twu8u2uft@wvtGtRctGt)wv|twu8u2uft@wvtGtRZtGt)wv|twu8u2uftRctGt)wvtGtRZ|twu8u2uftRctGt@wvtGtRZ|",
    "twu8u2uft@wvtGtRcPtRZtGt)wv|twu8u2uft@wvtGtRZPtRctGt)wv|twu8u2uft@wvtGtRZtGt)wvtGtRc|twu8u2uft@w",
    "vtGtRctGt)wvtGtRZ|twu8u2uftRctGt@wvtGtRZtGt)wv|twu8u2uftRZtGt@wvtGtRctGt)wv|twu8u2ufx@|twu8u2t*2",
    "tJtM|w6-%!?.|(7%hj|ct(@A3#U|Zt(@A3#U|(7u%Q2#mt:|t:QPt@Pt)t0ymt%|tlQPt@Pt)t0ymt%|u%QPZt0ymt%|u:QP",
    "Zt0ymt%|ct(+i|Zt(+i|[d.axg|ZujtytA|vDufxg|vDuftRZtGt)wv|vDufx@|tEtT(Q2%U.l|c%%tEZt[t&|tR%%tEZt[t",
    "&|Z%%tEZt[t&|vDty!6j|*?(2|*?(22@qRzL|*?(2@Ncc|*?(2@NcZ|*?(22@J[|tEtj-t[@I%|)0EvV|)0Et0|)0Et3|)0E",
    "tC|)0EtQ|)0EtX|)0Et=|)0EuB|)0Et?|)0EuF|[3&u.|u.#Y|u.!nj|u.z(j|u.V1|u.+Z1|u.?*1|u.*1|u.)E|u.cy8|u",
    ".Zy8|u.y4|u.ts1|u.x0|u.$(-!c|u.xhwJ|u.#4|u.EvV|u.Et0|u.Et3|u.EtC|u.EtQ|u.EtX|u.Et=|u.EuB|u.Et?|u",
    ".EuF|u.zY|u.&v|u.x1-uX1|u.z21|u.w=-uX1|u.!6j|u.=k!U|u.750F|u.750t4|u.750tb|u.750tV|u.750f|u.750u",
    "V|u.750u[|u.750vB|u.750t6|u.750vt|u.750v3|u.750t+|u.750uz|u.750u5|u.750t1|u.750vQ|u.750x6|u.750t",
    "u|u.750tt|u.750u]|u.750n|u.750v5|u.750v(|u.750vj|u.750u?|u.750vR|u.cluG|u.#i#4|u.ZluG|u.v.wf|u.t",
    "_vL|u.wCwf|u.730F|u.730t4|u.730tb|u.730tV|u.730f|u.730uV|u.730u[|u.730vB|u.730t6|u.730vt|u.730v3",
    "|u.730t+|u.730uz|u.730u5|u.730t1|u.730vQ|u.730x6|u.730tu|u.730tt|u.730u]|u.730n|u.730v5|u.730v(|",
    "u.730vj|u.730u?|u.730vR|u.cz1uG|u.tJvL|u.Zz1uG|u.u(|@Iiu.|tItH-=I|tItH-.O|tItH-@0#|tItH-@4^|tItH",
    "-@4_|tItH-@Dc|tItH-=J|tItH-=K|tItH-@0*|tItH-@0.|tItH-@59|tItH-@D@|tItH-@D[|tItH-@D]|tItH-@ZZ|tIt",
    "H-@D^|tItH-@Zu|tItH-@5A|tItH-@5F|tItH-@0:|tItH-@5H|tItH-@5I|tItH-@5J|tItH-@E9|tItH-@aw|tItH-@EA|",
    "tItH-@EB|tItH-@b9|tItH-@0=|tItH-@5M|tItH-@5N|tItH-@5O|tItH-@EK|tItH-@5P|tItH-@5Q|tItH-@5R|tItH-@",
    "5S|tItH-@5T|tItH-@cg|tItH-@5U|tItH-@EU|tItH-@EW|tItH-@d2|tItH-@dJ|tItH-@dT|tItH-@dd|tItH-@dq|tIt",
    "H-@d$|tItH-@d?|tItH-@e8|tItH-@Eb|tItH-@Ed|tItH-@ef|tItH-@es|tItH-@e&|tItH-@e^|tItH-@f8|tItH-@fJ|",
    "tItH-@fT|tItH-@fg|tItH-@fr|tItH-@Eg|tItH-@fs|tItH-@fw|tItH-@fx|tItH-@fy|tItH-@fz|tItH-@f!|tItH-@",
    "f#|tItH-@f$|tItH-@f%|tItH-@f&|tItH-@f(|tItH-@f.|tItH-@f=|tItH-@f@|tItH-@f[|tItH-@f]|tItH-@f^|tIt",
    "H-@f_|tItH-@g0|tItH-@g1|tItH-@g2|tItH-@C8|tItH-@C9|tItH-@4#|tItH-@CA|tItH-@CB|tItH-@CC|tItH-@CD|",
    "tItH-@CE|tItH-@CF|tItH-@CG|tItH-@CH|tItH-@CI|tItH-@CJ|tItH-@CK|tItH-@CL|tItH-@CM|tItH-@CN|tItH-@",
    "CO|tItH-@CP|tItH-@CQ|tItH-@CR|tItH-@CS|tItH-@CT|tItH-@0s|tItH-@0t|tItH-@0u|tItH-@0v|tItH-@4$|tIt",
    "H-@4%|tItH-@Ce|tItH-@4&|tItH-@Cf|tItH-@Cg|tItH-@Ch|tItH-@0w|tItH-@4(|tItH-@0x|tItH-@4)|tItH-@4*|",
    "tItH-@Cn|tItH-@Co|tItH-@Cp|tItH-@4+|tItH-@Cq|tItH-@Cr|tItH-@0y|tItH-@0z|tItH-@4.|tItH-@4:|tItH-@",
    "Ct|tItH-@Cu|tItH-@Cv|tItH-@Cw|tItH-@Cx|tItH-@Cy|tItH-@Cz|tItH-@0!|tItH-@4=|tItH-@4?|tItH-@C!|tIt",
    "H-@C#|tItH-@C$|tItH-@C%|tItH-@C&|tItH-@C(|tItH-@C)|tItH-@C*|tItH-@4@|tItH-@4[|tItH-@C+|tItH-@C.|",
    "tItH-@C:|tItH-@C=|tItH-@C?|tItH-@C@|tItH-@C[|tItH-@C]|tItH-@C^|tItH-@4]|tItH-@C_|tItH-@D0|tItH-@",
    "D1|tItH-@D2|tItH-@D3|tItH-@D4|tItH-@D5|tItH-@D6|tItH-@D7|tItH-@D8|tItH-@D9|tItH-@DA|tItH-@DB|tIt",
    "H-@DC|tItH-@DD|tItH-@DE|tItH-@DF|tItH-@DG|tItH-@DH|tItH-@DI|tItH-@DJ|tItH-@DK|tItH-@DL|tItH-@DM|",
    "tItH-@DN|tItH-@DO|tItH-@DP|tItH-@DQ|tItH-@DR|tItH-@DS|tItH-@DT|tItH-@50|tItH-@DU|tItH-@DV|tItH-@",
    "DW|tItH-@DX|tItH-@DY|tItH-@DZ|tItH-@Da|tItH-@Db|tItH-@51|tItH-@52|tItH-@Dd|tItH-@De|tItH-@Df|tIt",
    "H-@Dg|tItH-@53|tItH-@Dh|tItH-@Di|tItH-@54|tItH-@Dj|tItH-@Dk|tItH-@Dl|tItH-@Dm|tItH-@Dn|tItH-@0$|",
    "tItH-@0%|tItH-@0&|tItH-@55|tItH-@0(|tItH-@Ds|tItH-@Dt|tItH-@Du|tItH-@Dv|tItH-@Dw|tItH-@Dx|tItH-@",
    "0)|tItH-@56|tItH-@57|tItH-@58|tItH-@Dz|tItH-@D!|tItH-@D#|tItH-@D$|tItH-@D%|tItH-@D&|tItH-@D(|tIt",
    "H-@0+"]

/-- The code points whose names `nameCodes` holds, in order. -/
def namedRanges : RangeTable := RangeTable.ofLines [
  "20-7e a0-377 37a-37f 384-38a 38c 38e-3a1 3a3-52f 531-556 559-58a 58d-58f 591-5c7 5d0-5ea",
  "5ef-5f4 600-70d 70f-74a 74d-7b1 7c0-7fa 7fd-82d 830-83e 840-85b 85e 860-86a 870-88e",
  "890-891 898-983 985-98c 98f-990 993-9a8 9aa-9b0 9b2 9b6-9b9 9bc-9c4 9c7-9c8 9cb-9ce 9d7",
  "9dc-9dd 9df-9e3 9e6-9fe a01-a03 a05-a0a a0f-a10 a13-a28 a2a-a30 a32-a33 a35-a36 a38-a39",
  "a3c a3e-a42 a47-a48 a4b-a4d a51 a59-a5c a5e a66-a76 a81-a83 a85-a8d a8f-a91 a93-aa8",
  "aaa-ab0 ab2-ab3 ab5-ab9 abc-ac5 ac7-ac9 acb-acd ad0 ae0-ae3 ae6-af1 af9-aff b01-b03",
  "b05-b0c b0f-b10 b13-b28 b2a-b30 b32-b33 b35-b39 b3c-b44 b47-b48 b4b-b4d b55-b57 b5c-b5d",
  "b5f-b63 b66-b77 b82-b83 b85-b8a b8e-b90 b92-b95 b99-b9a b9c b9e-b9f ba3-ba4 ba8-baa",
  "bae-bb9 bbe-bc2 bc6-bc8 bca-bcd bd0 bd7 be6-bfa c00-c0c c0e-c10 c12-c28 c2a-c39 c3c-c44",
  "c46-c48 c4a-c4d c55-c56 c58-c5a c5d c60-c63 c66-c6f c77-c8c c8e-c90 c92-ca8 caa-cb3",
  "cb5-cb9 cbc-cc4 cc6-cc8 cca-ccd cd5-cd6 cdd-cde ce0-ce3 ce6-cef cf1-cf2 d00-d0c d0e-d10",
  "d12-d44 d46-d48 d4a-d4f d54-d63 d66-d7f d81-d83 d85-d96 d9a-db1 db3-dbb dbd dc0-dc6 dca",
  "dcf-dd4 dd6 dd8-ddf de6-def df2-df4 e01-e3a e3f-e5b e81-e82 e84 e86-e8a e8c-ea3 ea5",
  "ea7-ebd ec0-ec4 ec6 ec8-ecd ed0-ed9 edc-edf f00-f47 f49-f6c f71-f97 f99-fbc fbe-fcc",
  "fce-fda 1000-10c5 10c7 10cd 10d0-1248 124a-124d 1250-1256 1258 125a-125d 1260-1288",
  "128a-128d 1290-12b0 12b2-12b5 12b8-12be 12c0 12c2-12c5 12c8-12d6 12d8-1310 1312-1315",
  "1318-135a 135d-137c 1380-1399 13a0-13f5 13f8-13fd 1400-169c 16a0-16f8 1700-1715",
  "171f-1736 1740-1753 1760-176c 176e-1770 1772-1773 1780-17dd 17e0-17e9 17f0-17f9",
  "1800-1819 1820-1878 1880-18aa 18b0-18f5 1900-191e 1920-192b 1930-193b 1940 1944-196d",
  "1970-1974 1980-19ab 19b0-19c9 19d0-19da 19de-1a1b 1a1e-1a5e 1a60-1a7c 1a7f-1a89",
  "1a90-1a99 1aa0-1aad 1ab0-1ace 1b00-1b4c 1b50-1b7e 1b80-1bf3 1bfc-1c37 1c3b-1c49",
  "1c4d-1c88 1c90-1cba 1cbd-1cc7 1cd0-1cfa 1d00-1f15 1f18-1f1d 1f20-1f45 1f48-1f4d",
  "1f50-1f57 1f59 1f5b 1f5d 1f5f-1f7d 1f80-1fb4 1fb6-1fc4 1fc6-1fd3 1fd6-1fdb 1fdd-1fef",
  "1ff2-1ff4 1ff6-1ffe 2000-2064 2066-2071 2074-208e 2090-209c 20a0-20c0 20d0-20f0",
  "2100-218b 2190-2426 2440-244a 2460-2b73 2b76-2b95 2b97-2cf3 2cf9-2d25 2d27 2d2d",
  "2d30-2d67 2d6f-2d70 2d7f-2d96 2da0-2da6 2da8-2dae 2db0-2db6 2db8-2dbe 2dc0-2dc6",
  "2dc8-2dce 2dd0-2dd6 2dd8-2dde 2de0-2e5d 2e80-2e99 2e9b-2ef3 2f00-2fd5 2ff0-2ffb",
  "3000-303f 3041-3096 3099-30ff 3105-312f 3131-318e 3190-31e3 31f0-321e 3220-33ff",
  "4dc0-4dff a000-a48c a490-a4c6 a4d0-a62b a640-a6f7 a700-a7ca a7d0-a7d1 a7d3 a7d5-a7d9",
  "a7f2-a82c a830-a839 a840-a877 a880-a8c5 a8ce-a8d9 a8e0-a953 a95f-a97c a980-a9cd",
  "a9cf-a9d9 a9de-a9fe aa00-aa36 aa40-aa4d aa50-aa59 aa5c-aac2 aadb-aaf6 ab01-ab06",
  "ab09-ab0e ab11-ab16 ab20-ab26 ab28-ab2e ab30-ab6b ab70-abed abf0-abf9 d7b0-d7c6",
  "d7cb-d7fb fb00-fb06 fb13-fb17 fb1d-fb36 fb38-fb3c fb3e fb40-fb41 fb43-fb44 fb46-fbc2",
  "fbd3-fd8f fd92-fdc7 fdcf fdf0-fe19 fe20-fe52 fe54-fe66 fe68-fe6b fe70-fe74 fe76-fefc",
  "feff ff01-ffbe ffc2-ffc7 ffca-ffcf ffd2-ffd7 ffda-ffdc ffe0-ffe6 ffe8-ffee fff9-fffd",
  "10000-1000b 1000d-10026 10028-1003a 1003c-1003d 1003f-1004d 10050-1005d 10080-100fa",
  "10100-10102 10107-10133 10137-1018e 10190-1019c 101a0 101d0-101fd 10280-1029c",
  "102a0-102d0 102e0-102fb 10300-10323 1032d-1034a 10350-1037a 10380-1039d 1039f-103c3",
  "103c8-103d5 10400-1049d 104a0-104a9 104b0-104d3 104d8-104fb 10500-10527 10530-10563",
  "1056f-1057a 1057c-1058a 1058c-10592 10594-10595 10597-105a1 105a3-105b1 105b3-105b9",
  "105bb-105bc 10600-10736 10740-10755 10760-10767 10780-10785 10787-107b0 107b2-107ba",
  "10800-10805 10808 1080a-10835 10837-10838 1083c 1083f-10855 10857-1089e 108a7-108af",
  "108e0-108f2 108f4-108f5 108fb-1091b 1091f-10939 1093f 10980-109b7 109bc-109cf",
  "109d2-10a03 10a05-10a06 10a0c-10a13 10a15-10a17 10a19-10a35 10a38-10a3a 10a3f-10a48",
  "10a50-10a58 10a60-10a9f 10ac0-10ae6 10aeb-10af6 10b00-10b35 10b39-10b55 10b58-10b72",
  "10b78-10b91 10b99-10b9c 10ba9-10baf 10c00-10c48 10c80-10cb2 10cc0-10cf2 10cfa-10d27",
  "10d30-10d39 10e60-10e7e 10e80-10ea9 10eab-10ead 10eb0-10eb1 10f00-10f27 10f30-10f59",
  "10f70-10f89 10fb0-10fcb 10fe0-10ff6 11000-1104d 11052-11075 1107f-110c2 110cd",
  "110d0-110e8 110f0-110f9 11100-11134 11136-11147 11150-11176 11180-111df 111e1-111f4",
  "11200-11211 11213-1123e 11280-11286 11288 1128a-1128d 1128f-1129d 1129f-112a9",
  "112b0-112ea 112f0-112f9 11300-11303 11305-1130c 1130f-11310 11313-11328 1132a-11330",
  "11332-11333 11335-11339 1133b-11344 11347-11348 1134b-1134d 11350 11357 1135d-11363",
  "11366-1136c 11370-11374 11400-1145b 1145d-11461 11480-114c7 114d0-114d9 11580-115b5",
  "115b8-115dd 11600-11644 11650-11659 11660-1166c 11680-116b9 116c0-116c9 11700-1171a",
  "1171d-1172b 11730-11746 11800-1183b 118a0-118f2 118ff-11906 11909 1190c-11913",
  "11915-11916 11918-11935 11937-11938 1193b-11946 11950-11959 119a0-119a7 119aa-119d7",
  "119da-119e4 11a00-11a47 11a50-11aa2 11ab0-11af8 11c00-11c08 11c0a-11c36 11c38-11c45",
  "11c50-11c6c 11c70-11c8f 11c92-11ca7 11ca9-11cb6 11d00-11d06 11d08-11d09 11d0b-11d36",
  "11d3a 11d3c-11d3d 11d3f-11d47 11d50-11d59 11d60-11d65 11d67-11d68 11d6a-11d8e",
  "11d90-11d91 11d93-11d98 11da0-11da9 11ee0-11ef8 11fb0 11fc0-11ff1 11fff-12399",
  "12400-1246e 12470-12474 12480-12543 12f90-12ff2 13000-1342e 13430-13438 14400-14646",
  "16800-16a38 16a40-16a5e 16a60-16a69 16a6e-16abe 16ac0-16ac9 16ad0-16aed 16af0-16af5",
  "16b00-16b45 16b50-16b59 16b5b-16b61 16b63-16b77 16b7d-16b8f 16e40-16e9a 16f00-16f4a",
  "16f4f-16f87 16f8f-16f9f 16fe0-16fe4 16ff0-16ff1 18800-18aff 1aff0-1aff3 1aff5-1affb",
  "1affd-1affe 1b000-1b122 1b150-1b152 1b164-1b167 1bc00-1bc6a 1bc70-1bc7c 1bc80-1bc88",
  "1bc90-1bc99 1bc9c-1bca3 1cf00-1cf2d 1cf30-1cf46 1cf50-1cfc3 1d000-1d0f5 1d100-1d126",
  "1d129-1d1ea 1d200-1d245 1d2e0-1d2f3 1d300-1d356 1d360-1d378 1d400-1d454 1d456-1d49c",
  "1d49e-1d49f 1d4a2 1d4a5-1d4a6 1d4a9-1d4ac 1d4ae-1d4b9 1d4bb 1d4bd-1d4c3 1d4c5-1d505",
  "1d507-1d50a 1d50d-1d514 1d516-1d51c 1d51e-1d539 1d53b-1d53e 1d540-1d544 1d546",
  "1d54a-1d550 1d552-1d6a5 1d6a8-1d7cb 1d7ce-1da8b 1da9b-1da9f 1daa1-1daaf 1df00-1df1e",
  "1e000-1e006 1e008-1e018 1e01b-1e021 1e023-1e024 1e026-1e02a 1e100-1e12c 1e130-1e13d",
  "1e140-1e149 1e14e-1e14f 1e290-1e2ae 1e2c0-1e2f9 1e2ff 1e7e0-1e7e6 1e7e8-1e7eb",
  "1e7ed-1e7ee 1e7f0-1e7fe 1e800-1e8c4 1e8c7-1e8d6 1e900-1e94b 1e950-1e959 1e95e-1e95f",
  "1ec71-1ecb4 1ed01-1ed3d 1ee00-1ee03 1ee05-1ee1f 1ee21-1ee22 1ee24 1ee27 1ee29-1ee32",
  "1ee34-1ee37 1ee39 1ee3b 1ee42 1ee47 1ee49 1ee4b 1ee4d-1ee4f 1ee51-1ee52 1ee54 1ee57",
  "1ee59 1ee5b 1ee5d 1ee5f 1ee61-1ee62 1ee64 1ee67-1ee6a 1ee6c-1ee72 1ee74-1ee77",
  "1ee79-1ee7c 1ee7e 1ee80-1ee89 1ee8b-1ee9b 1eea1-1eea3 1eea5-1eea9 1eeab-1eebb",
  "1eef0-1eef1 1f000-1f02b 1f030-1f093 1f0a0-1f0ae 1f0b1-1f0bf 1f0c1-1f0cf 1f0d1-1f0f5",
  "1f100-1f1ad 1f1e6-1f202 1f210-1f23b 1f240-1f248 1f250-1f251 1f260-1f265 1f300-1f6d7",
  "1f6dd-1f6ec 1f6f0-1f6fc 1f700-1f773 1f780-1f7d8 1f7e0-1f7eb 1f7f0 1f800-1f80b",
  "1f810-1f847 1f850-1f859 1f860-1f887 1f890-1f8ad 1f8b0-1f8b1 1f900-1fa53 1fa60-1fa6d",
  "1fa70-1fa74 1fa78-1fa7c 1fa80-1fa86 1fa90-1faac 1fab0-1faba 1fac0-1fac5 1fad0-1fad9",
  "1fae0-1fae7 1faf0-1faf6 1fb00-1fb92 1fb94-1fbca 1fbf0-1fbf9 e0001 e0020-e007f",
  "e0100-e01ef"]

/-- Further names of characters, each its code point in hexadecimal, `:` and the name,
separated by `|`. -/
def nameAliases : String :=
  String.join [
    "0:NUL|0:NULL|1:SOH|1:START OF HEADING|2:START OF TEXT|2:STX|3:END OF TEXT|3:ETX|4:END OF TRANSMISSION|",
    "4:EOT|5:ENQ|5:ENQUIRY|6:ACK|6:ACKNOWLEDGE|7:ALERT|7:BEL|8:BACKSPACE|8:BS|9:CHARACTER TABULATION|9:HORIZONTAL TABULATION|",
    "9:HT|9:TAB|a:END OF LINE|a:EOL|a:LF|a:LINE FEED|a:NEW LINE|a:NL|b:LINE TABULATION|b:VERTICAL TABULATION|",
    "b:VT|c:FF|c:FORM FEED|d:CARRIAGE RETURN|d:CR|e:LOCKING-SHIFT ONE|e:SHIFT OUT|e:SO|f:LOCKING-SHIFT ZERO|",
    "f:SHIFT IN|f:SI|10:DATA LINK ESCAPE|10:DLE|11:DC1|11:DEVICE CONTROL ONE|12:DC2|12:DEVICE CONTROL TWO|",
    "13:DC3|13:DEVICE CONTROL THREE|14:DC4|14:DEVICE CONTROL FOUR|15:NAK|15:NEGATIVE ACKNOWLEDGE|16:SYN|",
    "16:SYNCHRONOUS IDLE|17:END OF TRANSMISSION BLOCK|17:ETB|18:CAN|18:CANCEL|19:END OF MEDIUM|19:EOM|",
    "1a:SUB|1a:SUBSTITUTE|1b:ESC|1b:ESCAPE|1c:FILE SEPARATOR|1c:FS|1c:INFORMATION SEPARATOR FOUR|1d:GROUP SEPARATOR|",
    "1d:GS|1d:INFORMATION SEPARATOR THREE|1e:INFORMATION SEPARATOR TWO|1e:RECORD SEPARATOR|1e:RS|1f:INFORMATION SEPARATOR ONE|",
    "1f:UNIT SEPARATOR|1f:US|20:SP|7f:DEL|7f:DELETE|80:PAD|80:PADDING CHARACTER|81:HIGH OCTET PRESET|81:HOP|",
    "82:BPH|82:BREAK PERMITTED HERE|83:NBH|83:NO BREAK HERE|84:IND|84:INDEX|85:NEL|85:NEXT LINE|86:SSA|",
    "86:START OF SELECTED AREA|87:END OF SELECTED AREA|87:ESA|88:CHARACTER TABULATION SET|88:HORIZONTAL TABULATION SET|",
    "88:HTS|89:CHARACTER TABULATION WITH JUSTIFICATION|89:HORIZONTAL TABULATION WITH JUSTIFICATION|89:HTJ|",
    "8a:LINE TABULATION SET|8a:VERTICAL TABULATION SET|8a:VTS|8b:PARTIAL LINE DOWN|8b:PARTIAL LINE FORWARD|",
    "8b:PLD|8c:PARTIAL LINE BACKWARD|8c:PARTIAL LINE UP|8c:PLU|8d:REVERSE INDEX|8d:REVERSE LINE FEED|8d:RI|",
    "8e:SINGLE SHIFT TWO|8e:SINGLE-SHIFT-2|8e:SS2|8f:SINGLE SHIFT THREE|8f:SINGLE-SHIFT-3|8f:SS3|90:DCS|",
    "90:DEVICE CONTROL STRING|91:PRIVATE USE ONE|91:PRIVATE USE-1|91:PU1|92:PRIVATE USE TWO|92:PRIVATE USE-2|",
    "92:PU2|93:SET TRANSMIT STATE|93:STS|94:CANCEL CHARACTER|94:CCH|95:MESSAGE WAITING|95:MW|96:SPA|96:START OF GUARDED AREA|",
    "96:START OF PROTECTED AREA|97:END OF GUARDED AREA|97:END OF PROTECTED AREA|97:EPA|98:SOS|98:START OF STRING|",
    "99:SGC|99:SINGLE GRAPHIC CHARACTER INTRODUCER|9a:SCI|9a:SINGLE CHARACTER INTRODUCER|9b:CONTROL SEQUENCE INTRODUCER|",
    "9b:CSI|9c:ST|9c:STRING TERMINATOR|9d:OPERATING SYSTEM COMMAND|9d:OSC|9e:PM|9e:PRIVACY MESSAGE|9f:APC|",
    "9f:APPLICATION PROGRAM COMMAND|a0:NBSP|ad:SHY|1a2:LATIN CAPITAL LETTER GHA|1a3:LATIN SMALL LETTER GHA|",
    "34f:CGJ|61c:ALM|709:SYRIAC SUBLINEAR COLON SKEWED LEFT|cde:KANNADA LETTER LLLA|e9d:LAO LETTER FO FON|",
    "e9f:LAO LETTER FO FAY|ea3:LAO LETTER RO|ea5:LAO LETTER LO|fd0:TIBETAN MARK BKA- SHOG GI MGO RGYAN|",
    "11ec:HANGUL JONGSEONG YESIEUNG-KIYEOK|11ed:HANGUL JONGSEONG YESIEUNG-SSANGKIYEOK|11ee:HANGUL JONGSEONG SSANGYESIEUNG|",
    "11ef:HANGUL JONGSEONG YESIEUNG-KHIEUKH|180b:FVS1|180c:FVS2|180d:FVS3|180e:MVS|180f:FVS4|200b:ZWSP|",
    "200c:ZWNJ|200d:ZWJ|200e:LRM|200f:RLM|202a:LRE|202b:RLE|202c:PDF|202d:LRO|202e:RLO|202f:NNBSP|205f:MMSP|",
    "2060:WJ|2066:LRI|2067:RLI|2068:FSI|2069:PDI|2118:WEIERSTRASS ELLIPTIC FUNCTION|2448:MICR ON US SYMBOL|",
    "2449:MICR DASH SYMBOL|2b7a:LEFTWARDS TRIANGLE-HEADED ARROW WITH DOUBLE VERTICAL STROKE|2b7c:RIGHTWARDS TRIANGLE-HEADED ARROW WITH DOUBLE VERTICAL STROKE|",
    "a015:YI SYLLABLE ITERATION MARK|aa6e:MYANMAR LETTER KHAMTI LLA|fe00:VS1|fe01:VS2|fe02:VS3|fe03:VS4|",
    "fe04:VS5|fe05:VS6|fe06:VS7|fe07:VS8|fe08:VS9|fe09:VS10|fe0a:VS11|fe0b:VS12|fe0c:VS13|fe0d:VS14|fe0e:VS15|",
    "fe0f:VS16|fe18:PRESENTATION FORM FOR VERTICAL RIGHT WHITE LENTICULAR BRACKET|feff:BOM|feff:BYTE ORDER MARK|",
    "feff:ZWNBSP|122d4:CUNEIFORM SIGN NU11 TENU|122d5:CUNEIFORM SIGN NU11 OVER NU11 BUR OVER BUR|16e56:MEDEFAIDRIN CAPITAL LETTER H|",
    "16e57:MEDEFAIDRIN CAPITAL LETTER NG|16e76:MEDEFAIDRIN SMALL LETTER H|16e77:MEDEFAIDRIN SMALL LETTER NG|",
    "1b001:HENTAIGANA LETTER E-1|1d0c5:BYZANTINE MUSICAL SYMBOL FTHORA SKLIRON CHROMA VASIS|e0100:VS17|",
    "e0101:VS18|e0102:VS19|e0103:VS20|e0104:VS21|e0105:VS22|e0106:VS23|e0107:VS24|e0108:VS25|e0109:VS26|",
    "e010a:VS27|e010b:VS28|e010c:VS29|e010d:VS30|e010e:VS31|e010f:VS32|e0110:VS33|e0111:VS34|e0112:VS35|",
    "e0113:VS36|e0114:VS37|e0115:VS38|e0116:VS39|e0117:VS40|e0118:VS41|e0119:VS42|e011a:VS43|e011b:VS44|",
    "e011c:VS45|e011d:VS46|e011e:VS47|e011f:VS48|e0120:VS49|e0121:VS50|e0122:VS51|e0123:VS52|e0124:VS53|",
    "e0125:VS54|e0126:VS55|e0127:VS56|e0128:VS57|e0129:VS58|e012a:VS59|e012b:VS60|e012c:VS61|e012d:VS62|",
    "e012e:VS63|e012f:VS64|e0130:VS65|e0131:VS66|e0132:VS67|e0133:VS68|e0134:VS69|e0135:VS70|e0136:VS71|",
    "e0137:VS72|e0138:VS73|e0139:VS74|e013a:VS75|e013b:VS76|e013c:VS77|e013d:VS78|e013e:VS79|e013f:VS80|",
    "e0140:VS81|e0141:VS82|e0142:VS83|e0143:VS84|e0144:VS85|e0145:VS86|e0146:VS87|e0147:VS88|e0148:VS89|",
    "e0149:VS90|e014a:VS91|e014b:VS92|e014c:VS93|e014d:VS94|e014e:VS95|e014f:VS96|e0150:VS97|e0151:VS98|",
    "e0152:VS99|e0153:VS100|e0154:VS101|e0155:VS102|e0156:VS103|e0157:VS104|e0158:VS105|e0159:VS106|e015a:VS107|",
    "e015b:VS108|e015c:VS109|e015d:VS110|e015e:VS111|e015f:VS112|e0160:VS113|e0161:VS114|e0162:VS115|e0163:VS116|",
    "e0164:VS117|e0165:VS118|e0166:VS119|e0167:VS120|e0168:VS121|e0169:VS122|e016a:VS123|e016b:VS124|e016c:VS125|",
    "e016d:VS126|e016e:VS127|e016f:VS128|e0170:VS129|e0171:VS130|e0172:VS131|e0173:VS132|e0174:VS133|e0175:VS134|",
    "e0176:VS135|e0177:VS136|e0178:VS137|e0179:VS138|e017a:VS139|e017b:VS140|e017c:VS141|e017d:VS142|e017e:VS143|",
    "e017f:VS144|e0180:VS145|e0181:VS146|e0182:VS147|e0183:VS148|e0184:VS149|e0185:VS150|e0186:VS151|e0187:VS152|",
    "e0188:VS153|e0189:VS154|e018a:VS155|e018b:VS156|e018c:VS157|e018d:VS158|e018e:VS159|e018f:VS160|e0190:VS161|",
    "e0191:VS162|e0192:VS163|e0193:VS164|e0194:VS165|e0195:VS166|e0196:VS167|e0197:VS168|e0198:VS169|e0199:VS170|",
    "e019a:VS171|e019b:VS172|e019c:VS173|e019d:VS174|e019e:VS175|e019f:VS176|e01a0:VS177|e01a1:VS178|e01a2:VS179|",
    "e01a3:VS180|e01a4:VS181|e01a5:VS182|e01a6:VS183|e01a7:VS184|e01a8:VS185|e01a9:VS186|e01aa:VS187|e01ab:VS188|",
    "e01ac:VS189|e01ad:VS190|e01ae:VS191|e01af:VS192|e01b0:VS193|e01b1:VS194|e01b2:VS195|e01b3:VS196|e01b4:VS197|",
    "e01b5:VS198|e01b6:VS199|e01b7:VS200|e01b8:VS201|e01b9:VS202|e01ba:VS203|e01bb:VS204|e01bc:VS205|e01bd:VS206|",
    "e01be:VS207|e01bf:VS208|e01c0:VS209|e01c1:VS210|e01c2:VS211|e01c3:VS212|e01c4:VS213|e01c5:VS214|e01c6:VS215|",
    "e01c7:VS216|e01c8:VS217|e01c9:VS218|e01ca:VS219|e01cb:VS220|e01cc:VS221|e01cd:VS222|e01ce:VS223|e01cf:VS224|",
    "e01d0:VS225|e01d1:VS226|e01d2:VS227|e01d3:VS228|e01d4:VS229|e01d5:VS230|e01d6:VS231|e01d7:VS232|e01d8:VS233|",
    "e01d9:VS234|e01da:VS235|e01db:VS236|e01dc:VS237|e01dd:VS238|e01de:VS239|e01df:VS240|e01e0:VS241|e01e1:VS242|",
    "e01e2:VS243|e01e3:VS244|e01e4:VS245|e01e5:VS246|e01e6:VS247|e01e7:VS248|e01e8:VS249|e01e9:VS250|e01ea:VS251|",
    "e01eb:VS252|e01ec:VS253|e01ed:VS254|e01ee:VS255|e01ef:VS256|"]

/-- Names that are a prefix, a hyphen and the code point in capital hexadecimal, with the
code points that carry them. -/
def numberedNames : List (String × RangeTable) := [
  ("CJK COMPATIBILITY IDEOGRAPH", RangeTable.ofLines [
    "f900-fa6d fa70-fad9 2f800-2fa1d"]),
  ("KHITAN SMALL SCRIPT CHARACTER", RangeTable.ofLines [
    "18b00-18cd5"]),
  ("NUSHU CHARACTER", RangeTable.ofLines [
    "1b170-1b2fb"])]

/-- The unified ideographs, named `CJK UNIFIED IDEOGRAPH-` and their code point. -/
def unifiedIdeographs : RangeTable := RangeTable.ofLines [
  "3400-4dbf 4e00-9fff 20000-2a6df 2a700-2b738 2b740-2b81d 2b820-2cea1 2ceb0-2ebe0",
  "30000-3134a"]

end SearchPage.Text
