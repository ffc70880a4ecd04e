/-!
# Table of character names

The names of characters and their aliases in order, without those of Korean syllables and of
unified ideographs (Unicode 14). A line starts with two digits, the number of letters that the
name has in common with the one on the line before, and goes on with the rest of the name.
-/

namespace JsLiteral.CharacterName

/-- Names from `ABACUS` on. -/
def namesA : String :=
"00ABACUS
01C CURRENT
02CORDION
04UNT OF
02K
03NOWLEDGE
02TIVATE ARABIC FORM SHAPING
09SYMMETRIC SWAPPING
02UTE ACCENT
07NGLE
01DDRESSED TO THE SUBJECT
02HESIVE BANDAGE
02I SHAKTI
02LAM ALIF LENGTHENER
06CAPITAL LETTER ALIF
21BA
22HE
21CHI
21DAALI
22HA
21E
21FA
21GA
22BE
21HA
21I
21JIIM
21KAF
22HA
22PO
21LAAM
21MIIM
21NHA
22UN
22YA
21O
21PE
21QAAF
21RA
21SHA
22INNYIIYHE
21TU
21U
21VA
21WAW
21YA
22HE
21ZAL
07ONSONANT MODIFIER
06DIGIT EIGHT
12FIVE
13OUR
12NINE
12ONE
12SEVEN
13IX
12THREE
13WO
12ZERO
06GEMINATE CONSONANT MODIFIER
13ION MARK
06HAMZA
06INITIAL EXCLAMATION MARK
14QUESTION MARK
06NASALIZATION MARK
07UKTA
06SMALL LETTER ALIF
19BA
20HE
19CHI
19DAALI
20HA
19E
19FA
19GA
20BE
19HA
19I
19JIIM
19KAF
20HA
20PO
19LAAM
19MIIM
19NHA
20UN
20YA
19O
19PE
19QAAF
19RA
19SHA
20INNYIIYHE
19TU
19U
19VA
19WAW
19YA
20HE
19ZAL
06VOWEL LENGTHENER
02METOS
03ISSION TICKETS
02ULT
01EGEAN CHECK MARK
07DRY MEASURE FIRST SUBUNIT
07LIQUID MEASURE FIRST SUBUNIT
07MEASURE SECOND SUBUNIT
15THIRD SUBUNIT
07NUMBER EIGHT
19 HUNDRED
20THOUSAND
19Y
20 THOUSAND
14FIFTY
19 THOUSAND
16VE
18 HUNDRED
19THOUSAND
15ORTY
19 THOUSAND
16UR
18 HUNDRED
19THOUSAND
14NINE
18 HUNDRED
19THOUSAND
18TY
20 THOUSAND
14ONE
17 HUNDRED
18THOUSAND
14SEVEN
19 HUNDRED
20THOUSAND
19TY
21 THOUSAND
15IX
17 HUNDRED
18THOUSAND
17TY
19 THOUSAND
14TEN
17 THOUSAND
15HIRTY
20 THOUSAND
16REE
19 HUNDRED
20THOUSAND
15WENTY
20 THOUSAND
16O
17 HUNDRED
18THOUSAND
07WEIGHT BASE UNIT
14FIRST SUBUNIT
15OURTH SUBUNIT
14SECOND SUBUNIT
14THIRD SUBUNIT
08ORD SEPARATOR DOT
22LINE
02RIAL TRAMWAY
01FGHANI SIGN
01HOM CONSONANT SIGN MEDIAL LA
28IGATING RA
27RA
05DIGIT EIGHT
11FIVE
12OUR
11NINE
11ONE
11SEVEN
12IX
11THREE
12WO
11ZERO
05LETTER A
13LTERNATE BA
22GA
22TA
12BA
13HA
12CA
13HA
12DA
13DA
14HA
13HA
12GA
13HA
12HA
12JA
13HA
12KA
13HA
12LA
13LA
12MA
12NA
13GA
13NA
13YA
12PA
13HA
12RA
12SA
12TA
13HA
13TA
14HA
05NUMBER TEN
13WENTY
05SIGN KILLER
10RULAI
10SECTION
11MALL SECTION
06YMBOL VI
05VOWEL SIGN A
17A
17I
17M
17W
16E
16I
17I
16O
16U
17U
01IRPLANE
08 ARRIVING
09DEPARTURE
01KTIESELSKAB
01LARM CLOCK
02CHEMICAL SYMBOL FOR AIR
23LEMBIC
24KALI
28-2
24UM
23MALGAM
23NTIMONY ORE
23QUA REGIA
32-2
27VITAE
32-2
26FORTIS
23RSENIC
23SHES
23URIPIGMENT
22BATH OF MARY
30VAPOURS
23ISMUTH ORE
23LACK SULFUR
23ORAX
27-2
283
23RICK
22CADUCEUS
24LX
24PUT MORTUUM
23INNABAR
23OPPER ANTIMONIATE
29ORE
23ROCUS OF COPPER
38-2
32IRON
24UCIBLE
30-2
313
314
315
22DAY-NIGHT
23ISSOLVE
30-2
25TILL
22EARTH
22FIRE
22GOLD
23UM
22HALF DRAM
27OUNCE
23ORSE DUNG
24UR
22IRON ORE
30-2
26-COPPER ORE
22LEAD ORE
23ODESTONE
22MARCASITE
23ERCURY SUBLIMATE
39-2
403
23ONTH
22NIGHT
24TRE
22OIL
22PHILOSOPHERS SULFUR
23OT ASHES
24WDER
28ED BRICK
23RECIPITATE
23URIFY
24TREFACTION
22QUICK LIME
25NTESSENCE
22REALGAR
29-2
24GULUS
29 OF ANTIMONY
41-2
33IRON
29-2
303
304
24TORT
23OCK SALT
31-2
22SAL-AMMONIAC
25T
26 OF ANTIMONY
30COPPER ANTIMONIATE
23CEPTER OF JOVE
23ILVER
23OAP
23PIRIT
23TARRED TRIDENT
24RATUM SUPER STRATUM
43-2
23UBLIMATE OF ANTIMONY
35COPPER
35SALT OF ANTIMONY
43COPPER
30ION
24LFUR
22TARTAR
28-2
23IN ORE
25CTURE
23RIDENT
23UTTY
22URINE
22VERDIGRIS
23INEGAR
29 OF ANTIMONY
29-2
303
24TRIOL
29-2
22WATER
24X
02EF SYMBOL
03MBIC
03RT
02IEN MONSTER
02L AROUND-PROFILE
04EQUAL TO
02M
03OST EQUAL OR EQUAL TO
13TO
15 WITH CIRCUMFLEX ACCENT
02TERNATE ONE-WAY LEFT WAY TRAFFIC
08IVE KEY SYMBOL
01MALGAMATION OR COPRODUCT
02BULANCE
02ERICAN FOOTBALL
02PERSAND
03HORA
01NATOLIAN HIEROGLYPH A001
242
243
244
245
246
247
248
249
2310
25A
241
242
243
244
245
246
247
248
249
2320
241
242
243
244
245
246
25A
247
248
249
2330
241
242
243
244
245
246
247
248
249
25A
2340
241
25A
242
243
244
245
25A
246
25A
25B
247
248
249
2350
241
242
243
244
245
246
247
248
249
2360
241
242
243
244
245
246
25A
25B
25C
247
248
249
2370
241
242
243
244
245
246
247
248
249
2380
241
242
243
244
245
246
247
248
249
2390
241
242
243
244
245
246
247
25A
248
25A
249
22100
25A
241
25A
242
25A
243
244
25A
25B
25C
245
25A
25B
246
247
25A
25B
25C
248
249
2310
25A
25B
241
242
243
244
245
25A
246
247
248
249
2320
241
242
243
244
245
25A
246
247
248
249
2330
241
242
243
244
245
25A
246
247
248
249
2340
241
242
243
244
245
246
247
248
249
2350
241
242
243
244
245
246
247
248
249
2360
241
242
243
244
245
246
247
248
249
2370
241
242
243
244
245
246
247
248
249
2380
241
242
243
244
245
246
247
248
249
2390
241
242
243
244
245
246
247
248
249
22200
241
242
25A
25B
243
244
245
246
247
25A
248
249
25A
2310
241
242
243
244
245
25A
246
25A
247
248
249
2320
241
242
243
244
245
246
247
25A
248
249
2330
241
242
243
244
245
246
247
248
249
2340
241
242
243
244
245
246
247
248
249
2350
241
242
243
244
245
246
247
248
249
2360
241
242
243
244
245
246
247
25A
248
249
2370
241
242
243
244
245
246
247
248
249
2380
241
242
243
244
245
246
247
248
249
25A
2390
241
242
243
244
25A
245
246
247
248
249
25A
22300
241
242
243
244
245
246
247
248
249
25A
2310
241
242
243
244
245
246
247
248
249
2320
241
242
243
244
245
246
247
248
249
25A
2330
241
242A
25B
25C
243
244
245
246
25A
25B
25C
247
248
249
2340
241
242
243
244
245
246
247
248
249
2350
241
242
243
244
245
246
247
248
249
25A
2360
241
242
243
244
25A
245
246
247
248
25A
249
2370
241
25A
242
243
244
245
246
247
248
249
2380
241
25A
242
243 RA OR RI
25A
244
245
246
25A
247
248
249
2390
241
242
243 EIGHT
244
245
246
247
248
249
22400
241
242
243
244
245
246
247
248
249
2310 BEGIN LOGOGRAM MARK
25A END LOGOGRAM MARK
241
242
243
244
245
246
247
248
249
2320
241
242
243
244
245
246
247
248
249
2330
241
242
243
244
245
246
247
248
249
2340
241
242
243
244
245
246
247
248
249
2350
25A
241
242
243
244
245
246
247
25A
248
249
2360
241
242
243
244
245
246
247
248
249
2370
241
242
243
244
245
246
247
248
249
2380
241
242
243
244
245
246
247
248
249
2390
241
242
243
244
245
246
247
22501
242
243
244
245
246
247
248
249
2310
241
242
243
244
245
246
247
248
249
2320
241
242
243
244
245
246
247
248
249
2330
05MICAL HEART
02CHOR
02D WITH DOT
02GER SYMBOL
03LE
05 WITH S INSIDE
11UNDERBAR
03RY FACE
03STROM SIGN
03UISHED FACE
02KH
02T
03ENNA WITH BARS
03ICLOCKWISE CLOSED CIRCLE ARROW
15ONTOUR INTEGRAL
14DOWNWARDS AND UPWARDS OPEN CIRCLE ARROWS
14GAPPED CIRCLE ARROW
14INTEGRATION
14OPEN CIRCLE ARROW
14TOP SEMICIRCLE ARROW
15RIANGLE-HEADED BOTTOM U-SHAPED ARROW
30LEFT U-SHAPED ARROW
30OPEN CIRCLE ARROW
30RIGHT U-SHAPED ARROW
30TOP U-SHAPED ARROW
01PC
02L FUNCTIONAL SYMBOL ALPHA
27 UNDERBAR
22BACKSLASH BAR
22CIRCLE BACKSLASH
29DIAERESIS
29JOT
29STAR
31ILE
29UNDERBAR
23OMMA BAR
22DEL DIAERESIS
26STILE
26TILDE
25TA STILE
28UNDERBAR
23IAMOND UNDERBAR
23OWN CARET TILDE
27SHOE STILE
27TACK JOT
32UNDERBAR
26WARDS VANE
22EPSILON UNDERBAR
22GREATER-THAN DIAERESIS
22I-BEAM
23OTA
26 UNDERBAR
22JOT DIAERESIS
26UNDERBAR
22LEFT SHOE STILE
26WARDS VANE
22OMEGA
27 UNDERBAR
22QUAD
26 BACKSLASH
27CIRCLE
28OLON
27DEL
30TA
28IAMOND
29VIDE
28OWN CARET
31WARDS ARROW
27EQUAL
27GREATER-THAN
27JOT
27LEFTWARDS ARROW
29SS-THAN
27NOT EQUAL
27QUESTION
27RIGHTWARDS ARROW
27SLASH
27UP CARET
29WARDS ARROW
24OTE QUAD
28UNDERBAR
22RHO
23IGHTWARDS VANE
22SEMICOLON UNDERBAR
23LASH BAR
23QUISH QUAD
23TAR DIAERESIS
24ILE TILDE
22TILDE DIAERESIS
22UP CARET TILDE
25SHOE JOT
25TACK DIAERESIS
30JOT
30OVERBAR
24WARDS VANE
22ZILDE
02OLLON
03STROPHE
02PLICATION PROGRAM COMMAND
03ROACHES THE LIMIT
05XIMATELY BUT NOT ACTUALLY EQUAL TO
14EQUAL OR EQUAL TO
20TO
22 OR THE IMAGE OF
01QUARIUS
01RABIC BASELINE ROUND DOT
07COMMA
08URLY DAMMA
18TAN
13FATHA
18TAN
13KASRA
18TAN
07DAMMA
12 ISOLATED FORM
13MEDIAL FORM
13WITH DOT
12TAN
15 ISOLATED FORM
09TE SEPARATOR
08ECIMAL SEPARATOR
08ISPUTED END OF AYAH
08OUBLE RIGHT ARROWHEAD ABOVE
35 WITH DOT
13D MADDA
07EMPTY CENTRE HIGH STOP
20LOW STOP
08ND OF AYAH
14TEXT MARK
07FATHA
12 ISOLATED FORM
13MEDIAL FORM
13WITH DOT ABOVE
18RING
18TWO DOTS
12TAN
15 ISOLATED FORM
08IVE POINTED STAR
08OOTNOTE MARKER
08ULL STOP
07HALF MADDA OVER MADDA
09MZA ABOVE
13BELOW
07INVERTED DAMMA
07KASRA
12 ISOLATED FORM
13MEDIAL FORM
13WITH DOT BELOW
12TAN
15 ISOLATED FORM
07LARGE CIRCLE BELOW
13ROUND DOT ABOVE
23BELOW
23INSIDE CIRCLE BELOW
08EFT ARROWHEAD ABOVE
22BELOW
09TTER AE
15FRICAN FEH
22NOON
22QAF
25 WITH THREE DOTS ABOVE
15IN
17 FINAL FORM
18INITIAL FORM
19SOLATED FORM
18MEDIAL FORM
18WITH THREE DOTS ABOVE
34BELOW
34POINTING DOWNWARDS ABOVE
24WO DOTS ABOVE
32VERTICALLY ABOVE
15LEF
18 FINAL FORM
19ISOLATED FORM
19MAKSURA
26 FINAL FORM
27ISOLATED FORM
19WASLA
24 FINAL FORM
25ISOLATED FORM
20ITH ATTACHED BOTTOM RIGHT KASRA
51 AND DOT ABOVE
56LEFT RING
33FATHA
33KASRA
33LEFT HAMZA
38ROUND DOT
33RIGHT HAMZA
39ROUND DOT
34OUND DOT ABOVE
43BELOW
33TOP RIGHT FATHA
48 AND DOT ABOVE
53LEFT RING
24DOT ABOVE
24EXTENDED ARABIC-INDIC DIGIT THREE ABOVE
53WO ABOVE
24HAMZA ABOVE
35 FINAL FORM
36ISOLATED FORM
30BELOW
35 FINAL FORM
36ISOLATED FORM
24LEFT MIDDLE STROKE
24MADDA ABOVE
35 FINAL FORM
36ISOLATED FORM
24RIGHT MIDDLE STROKE
43 AND DOT ABOVE
48LEFT RING
24WAVY HAMZA ABOVE
35BELOW
14BEEH
18 FINAL FORM
19INITIAL FORM
20SOLATED FORM
19MEDIAL FORM
16H
17 FINAL FORM
18INITIAL FORM
19SOLATED FORM
18MEDIAL FORM
18WITH DOT BELOW AND THREE DOTS ABOVE
23HAMZA ABOVE
23INVERTED SMALL V BELOW
23SMALL MEEM ABOVE
29V
30 BELOW
23THREE DOTS HORIZONTALLY BELOW
34POINTING UPWARDS BELOW
56 AND TWO DOTS ABOVE
24WO DOTS BELOW AND DOT ABOVE
17EH
19 FINAL FORM
20INITIAL FORM
21SOLATED FORM
20MEDIAL FORM
14DAD
17 FINAL FORM
18INITIAL FORM
19SOLATED FORM
18MEDIAL FORM
18WITH DOT BELOW
16HAL
19 FINAL FORM
20ISOLATED FORM
16L
17 FINAL FORM
18ISOLATED FORM
18WITH DOT BELOW
32 AND SMALL TAH
23FOUR DOTS ABOVE
23INVERTED SMALL V BELOW
32V
23RING
23THREE DOTS ABOVE DOWNWARDS
34BELOW
24WO DOTS VERTICALLY BELOW AND SMALL TAH
15DAHAL
20 FINAL FORM
21ISOLATED FORM
17L
18 FINAL FORM
19ISOLATED FORM
15OTLESS BEH
22FEH
22QAF
15UL
17 FINAL FORM
18ISOLATED FORM
15YEH
18 FINAL FORM
19INITIAL FORM
20SOLATED FORM
19MEDIAL FORM
14E
15 FINAL FORM
16INITIAL FORM
17SOLATED FORM
16MEDIAL FORM
14FARSI YEH
23 FINAL FORM
24INITIAL FORM
25SOLATED FORM
24MEDIAL FORM
24WITH EXTENDED ARABIC-INDIC DIGIT FOUR BELOW
57THREE ABOVE
58WO ABOVE
29INVERTED V
29THREE DOTS ABOVE
30WO DOTS ABOVE
15EH
17 FINAL FORM
18INITIAL FORM
19SOLATED FORM
18MEDIAL FORM
18WITH DOT BELOW
32 AND THREE DOTS ABOVE
27MOVED BELOW
23THREE DOTS BELOW
34POINTING UPWARDS BELOW
24WO DOTS BELOW
14GAF
17 FINAL FORM
18INITIAL FORM
19SOLATED FORM
18MEDIAL FORM
18WITH INVERTED STROKE
23RING
23THREE DOTS ABOVE
24WO DOTS BELOW
15HAIN
19 FINAL FORM
20INITIAL FORM
21SOLATED FORM
20MEDIAL FORM
20WITH DOT BELOW
25THREE DOTS ABOVE
15RAF
15UEH
18 FINAL FORM
19INITIAL FORM
20SOLATED FORM
19MEDIAL FORM
14HAH
17 FINAL FORM
18INITIAL FORM
19SOLATED FORM
18MEDIAL FORM
18WITH EXTENDED ARABIC-INDIC DIGIT FOUR BELOW
23HAMZA ABOVE
23INVERTED SMALL V BELOW
23SMALL ARABIC LETTER TAH ABOVE
48ND TWO DOTS
47BELOW
23THREE DOTS ABOVE
34POINTING UPWARDS BELOW
24WO DOTS ABOVE
32VERTICAL ABOVE
16MZA
19 ISOLATED FORM
15EH
17 DOACHASHMEE
29 FINAL FORM
30INITIAL FORM
31SOLATED FORM
30MEDIAL FORM
18FINAL FORM
18GOAL
22 FINAL FORM
23INITIAL FORM
24SOLATED FORM
23MEDIAL FORM
23WITH HAMZA ABOVE
18INITIAL FORM
19SOLATED FORM
18MEDIAL FORM
18WITH INVERTED V
23YEH ABOVE
32 FINAL FORM
33ISOLATED FORM
15IGH HAMZA
24 ALEF
25WAW
25YEH
14JEEM
18 FINAL FORM
19INITIAL FORM
20SOLATED FORM
19MEDIAL FORM
19WITH THREE DOTS ABOVE
35BELOW
25WO DOTS ABOVE
16H
17 FINAL FORM
18ISOLATED FORM
14KAF
17 FINAL FORM
18INITIAL FORM
19SOLATED FORM
18MEDIAL FORM
18WITH DOT ABOVE
27BELOW
23RING
23THREE DOTS BELOW
24WO DOTS ABOVE
16SHMIRI YEH
15EHEH
19 FINAL FORM
20INITIAL FORM
21SOLATED FORM
20MEDIAL FORM
20WITH DOT ABOVE
25SMALL V
25THREE DOTS ABOVE
36BELOW
36POINTING UPWARDS BELOW
26WO DOTS ABOVE
34VERTICALLY BELOW
15HAH
18 FINAL FORM
19INITIAL FORM
20SOLATED FORM
19MEDIAL FORM
15IRGHIZ OE
24 FINAL FORM
25ISOLATED FORM
22YU
24 FINAL FORM
25ISOLATED FORM
14LAM
17 FINAL FORM
18INITIAL FORM
19SOLATED FORM
18MEDIAL FORM
18WITH BAR
23DOT ABOVE
25UBLE BAR
23SMALL ARABIC LETTER TAH ABOVE
29V
23THREE DOTS ABOVE
34BELOW
15OW ALEF
14MARK
15EEM
18 FINAL FORM
19INITIAL FORM
20SOLATED FORM
19MEDIAL FORM
19WITH DOT ABOVE
28BELOW
24THREE DOTS ABOVE
14NG
16 FINAL FORM
17INITIAL FORM
18SOLATED FORM
17MEDIAL FORM
16OEH
19 FINAL FORM
20INITIAL FORM
21SOLATED FORM
20MEDIAL FORM
15OON
18 FINAL FORM
19GHUNNA
25 FINAL FORM
26ISOLATED FORM
19INITIAL FORM
20SOLATED FORM
19MEDIAL FORM
19WITH DOT BELOW
24INVERTED SMALL V
24RING
24SMALL TAH
30V
24THREE DOTS ABOVE
25WO DOTS BELOW
15YEH
18 FINAL FORM
19INITIAL FORM
20SOLATED FORM
19MEDIAL FORM
14OE
16 FINAL FORM
17ISOLATED FORM
14PEH
17 FINAL FORM
18INITIAL FORM
19SOLATED FORM
18MEDIAL FORM
18WITH SMALL MEEM ABOVE
29V
17EH
19 FINAL FORM
20INITIAL FORM
21SOLATED FORM
20MEDIAL FORM
14QAF
17 FINAL FORM
18INITIAL FORM
19SOLATED FORM
18MEDIAL FORM
18WITH DOT ABOVE
27BELOW
32 AND NO DOTS ABOVE
23THREE DOTS ABOVE
14REH
17 FINAL FORM
18ISOLATED FORM
18WITH DOT BELOW
32 AND DOT ABOVE
23FOUR DOTS ABOVE
23HAMZA ABOVE
23INVERTED V
23LOOP
23RING
23SMALL ARABIC LETTER TAH AND TWO DOTS
29NOON ABOVE
29V
30 BELOW
24TROKE
23TWO DOTS ABOVE
32VERTICALLY ABOVE
15NOON
19 FINAL FORM
20INITIAL FORM
21SOLATED FORM
20MEDIAL FORM
15OHINGYA YEH
15REH
18 FINAL FORM
19ISOLATED FORM
14SAD
17 FINAL FORM
18INITIAL FORM
19SOLATED FORM
18MEDIAL FORM
18WITH THREE DOTS ABOVE
34BELOW
24WO DOTS BELOW
15EEN
18 FINAL FORM
19INITIAL FORM
20SOLATED FORM
19MEDIAL FORM
19WITH DOT BELOW AND DOT ABOVE
24EXTENDED ARABIC-INDIC DIGIT FOUR ABOVE
24FOUR DOTS ABOVE
24INVERTED V
24SMALL ARABIC LETTER TAH AND TWO DOTS
24THREE DOTS BELOW
40 AND THREE DOTS ABOVE
25WO DOTS VERTICALLY ABOVE
15HEEN
19 FINAL FORM
20INITIAL FORM
21SOLATED FORM
20MEDIAL FORM
20WITH DOT BELOW
15TRAIGHT WAW
15UPERSCRIPT ALEF
15WASH KAF
14TAH
17 FINAL FORM
18INITIAL FORM
19SOLATED FORM
18MEDIAL FORM
18WITH DOT BELOW
23THREE DOTS ABOVE
34BELOW
24WO DOTS ABOVE
15CHEH
19 FINAL FORM
20INITIAL FORM
21SOLATED FORM
20MEDIAL FORM
20WITH DOT ABOVE
25SMALL V
19EH
21 FINAL FORM
22INITIAL FORM
23SOLATED FORM
22MEDIAL FORM
15EH
17 FINAL FORM
18INITIAL FORM
19SOLATED FORM
18MARBUTA
25 FINAL FORM
26GOAL
26ISOLATED FORM
19EDIAL FORM
18WITH RING
23SMALL TEH ABOVE
29V
23THREE DOTS ABOVE DOWNWARDS
17EH
19 FINAL FORM
20INITIAL FORM
21SOLATED FORM
20MEDIAL FORM
15HAL
18 FINAL FORM
19ISOLATED FORM
16EH
18 FINAL FORM
19INITIAL FORM
20SOLATED FORM
19MEDIAL FORM
16IN YEH
15TEH
18 FINAL FORM
19INITIAL FORM
20SOLATED FORM
19MEDIAL FORM
19WITH SMALL V
18EH
20 FINAL FORM
21INITIAL FORM
22SOLATED FORM
21MEDIAL FORM
14U
15 FINAL FORM
16ISOLATED FORM
16WITH HAMZA ABOVE
32 ISOLATED FORM
15IGHUR KAZAKH KIRGHIZ ALEF MAKSURA INITIAL FORM
49MEDIAL FORM
14VE
16 FINAL FORM
17ISOLATED FORM
16H
17 FINAL FORM
18INITIAL FORM
19SOLATED FORM
18MEDIAL FORM
14WAW
17 FINAL FORM
18ISOLATED FORM
18WITH DOT ABOVE
27WITHIN
23EXTENDED ARABIC-INDIC DIGIT THREE ABOVE
52WO ABOVE
23HAMZA ABOVE
34 FINAL FORM
35ISOLATED FORM
23RING
23TWO DOTS ABOVE
14YEH
17 BARREE
24 FINAL FORM
25ISOLATED FORM
25WITH EXTENDED ARABIC-INDIC DIGIT THREE ABOVE
59WO ABOVE
30HAMZA ABOVE
41 FINAL FORM
42ISOLATED FORM
18FINAL FORM
18INITIAL FORM
19SOLATED FORM
18MEDIAL FORM
18WITH HAMZA ABOVE
34 FINAL FORM
35INITIAL FORM
36SOLATED FORM
35MEDIAL FORM
23SMALL V
23TAIL
24HREE DOTS BELOW
24WO DOTS BELOW AND DOT ABOVE
42HAMZA ABOVE
42SMALL NOON ABOVE
15U
16 FINAL FORM
17ISOLATED FORM
14ZAH
17 FINAL FORM
18INITIAL FORM
19SOLATED FORM
18MEDIAL FORM
16IN
18 FINAL FORM
19ISOLATED FORM
19WITH INVERTED V ABOVE
08IGATURE AIN WITH ALEF MAKSURA FINAL FORM
38ISOLATED FORM
25JEEM INITIAL FORM
31SOLATED FORM
30WITH MEEM FINAL FORM
40INITIAL FORM
25MEEM INITIAL FORM
31SOLATED FORM
30WITH ALEF MAKSURA FINAL FORM
35MEEM FINAL FORM
40INITIAL FORM
35YEH FINAL FORM
25YEH FINAL FORM
29ISOLATED FORM
17KBAR ISOLATED FORM
17LAYHAA AS-SALAAM
21E ISOLATED FORM
21I AS-SALAAM
31TU WAS-SALAAM
22M AS-SALAAM
23AA AS-SALAAM
18EF MAKSURA WITH SUPERSCRIPT ALEF FINAL FORM
51ISOLATED FORM
21WITH FATHATAN FINAL FORM
35ISOLATED FORM
18LAH ISOLATED FORM
17ZZA WA JALL
16BEH WITH ALEF MAKSURA FINAL FORM
38ISOLATED FORM
25HAH INITIAL FORM
30SOLATED FORM
29WITH YEH FINAL FORM
26EH INITIAL FORM
29MEDIAL FORM
25JEEM INITIAL FORM
31SOLATED FORM
25KHAH INITIAL FORM
31SOLATED FORM
30WITH YEH FINAL FORM
25MEEM FINAL FORM
30INITIAL FORM
31SOLATED FORM
30MEDIAL FORM
25NOON FINAL FORM
25REH FINAL FORM
25YEH FINAL FORM
29ISOLATED FORM
25ZAIN FINAL FORM
17ISMILLAH AR-RAHMAN AR-RAHEEM
16DAD WITH ALEF MAKSURA FINAL FORM
38ISOLATED FORM
25HAH INITIAL FORM
30SOLATED FORM
29WITH ALEF MAKSURA FINAL FORM
34YEH FINAL FORM
25JEEM INITIAL FORM
31SOLATED FORM
25KHAH INITIAL FORM
31SOLATED FORM
30WITH MEEM FINAL FORM
40INITIAL FORM
25MEEM INITIAL FORM
31SOLATED FORM
25REH FINAL FORM
29ISOLATED FORM
25YEH FINAL FORM
29ISOLATED FORM
16FEH WITH ALEF MAKSURA FINAL FORM
38ISOLATED FORM
25HAH INITIAL FORM
30SOLATED FORM
25JEEM INITIAL FORM
31SOLATED FORM
25KHAH INITIAL FORM
31SOLATED FORM
30WITH MEEM FINAL FORM
40INITIAL FORM
25MEEM INITIAL FORM
31SOLATED FORM
30WITH YEH FINAL FORM
25YEH FINAL FORM
29ISOLATED FORM
16GHAIN WITH ALEF MAKSURA FINAL FORM
40ISOLATED FORM
27JEEM INITIAL FORM
33SOLATED FORM
27MEEM INITIAL FORM
33SOLATED FORM
32WITH ALEF MAKSURA FINAL FORM
37MEEM FINAL FORM
37YEH FINAL FORM
27YEH FINAL FORM
31ISOLATED FORM
16HAH WITH ALEF MAKSURA FINAL FORM
38ISOLATED FORM
25JEEM INITIAL FORM
31SOLATED FORM
30WITH YEH FINAL FORM
25MEEM INITIAL FORM
31SOLATED FORM
30WITH ALEF MAKSURA FINAL FORM
35YEH FINAL FORM
25YEH FINAL FORM
29ISOLATED FORM
17EH WITH ALEF MAKSURA ISOLATED FORM
25JEEM INITIAL FORM
31SOLATED FORM
25MEEM INITIAL FORM
31SOLATED FORM
30WITH JEEM INITIAL FORM
35MEEM INITIAL FORM
25SUPERSCRIPT ALEF INITIAL FORM
25YEH ISOLATED FORM
16JALLAJALALOUHOU
17EEM WITH ALEF MAKSURA FINAL FORM
39ISOLATED FORM
26HAH INITIAL FORM
31SOLATED FORM
30WITH ALEF MAKSURA FINAL FORM
35YEH FINAL FORM
26MEEM INITIAL FORM
32SOLATED FORM
31WITH ALEF MAKSURA FINAL FORM
36HAH FINAL FORM
40INITIAL FORM
36YEH FINAL FORM
26YEH FINAL FORM
30ISOLATED FORM
16KAF WITH ALEF FINAL FORM
30ISOLATED FORM
30MAKSURA FINAL FORM
38ISOLATED FORM
25HAH INITIAL FORM
30SOLATED FORM
25JEEM INITIAL FORM
31SOLATED FORM
25KHAH INITIAL FORM
31SOLATED FORM
25LAM FINAL FORM
29INITIAL FORM
30SOLATED FORM
29MEDIAL FORM
25MEEM FINAL FORM
30INITIAL FORM
31SOLATED FORM
30MEDIAL FORM
30WITH MEEM FINAL FORM
40INITIAL FORM
35YEH FINAL FORM
25YEH FINAL FORM
29ISOLATED FORM
17HAH WITH ALEF MAKSURA FINAL FORM
39ISOLATED FORM
26HAH ISOLATED FORM
26JEEM INITIAL FORM
32SOLATED FORM
26MEEM INITIAL FORM
32SOLATED FORM
26YEH FINAL FORM
30ISOLATED FORM
16LAM WITH ALEF FINAL FORM
30ISOLATED FORM
30MAKSURA FINAL FORM
38ISOLATED FORM
30WITH HAMZA ABOVE FINAL FORM
47ISOLATED FORM
41BELOW FINAL FORM
47ISOLATED FORM
35MADDA ABOVE FINAL FORM
47ISOLATED FORM
25HAH INITIAL FORM
30SOLATED FORM
29WITH ALEF MAKSURA FINAL FORM
34MEEM FINAL FORM
39INITIAL FORM
34YEH FINAL FORM
26EH INITIAL FORM
25JEEM INITIAL FORM
31SOLATED FORM
30WITH JEEM FINAL FORM
40INITIAL FORM
35MEEM FINAL FORM
40INITIAL FORM
35YEH FINAL FORM
25KHAH INITIAL FORM
31SOLATED FORM
30WITH MEEM FINAL FORM
40INITIAL FORM
25MEEM FINAL FORM
30INITIAL FORM
31SOLATED FORM
30MEDIAL FORM
30WITH HAH FINAL FORM
39INITIAL FORM
35YEH FINAL FORM
25YEH FINAL FORM
29ISOLATED FORM
16MEEM WITH ALEF FINAL FORM
31MAKSURA ISOLATED FORM
26HAH INITIAL FORM
31SOLATED FORM
30WITH JEEM INITIAL FORM
35MEEM INITIAL FORM
35YEH FINAL FORM
26JEEM INITIAL FORM
32SOLATED FORM
31WITH HAH INITIAL FORM
36KHAH INITIAL FORM
36MEEM INITIAL FORM
36YEH FINAL FORM
26KHAH INITIAL FORM
32SOLATED FORM
31WITH JEEM INITIAL FORM
36MEEM INITIAL FORM
36YEH FINAL FORM
26MEEM FINAL FORM
31INITIAL FORM
32SOLATED FORM
31WITH YEH FINAL FORM
26YEH ISOLATED FORM
17OHAMMAD ISOLATED FORM
16NOON WITH ALEF MAKSURA FINAL FORM
39ISOLATED FORM
26HAH INITIAL FORM
31SOLATED FORM
30WITH ALEF MAKSURA FINAL FORM
35MEEM INITIAL FORM
35YEH FINAL FORM
27EH INITIAL FORM
30MEDIAL FORM
26JEEM INITIAL FORM
32SOLATED FORM
31WITH ALEF MAKSURA FINAL FORM
36HAH FINAL FORM
40INITIAL FORM
36MEEM FINAL FORM
41INITIAL FORM
36YEH FINAL FORM
26KHAH INITIAL FORM
32SOLATED FORM
26MEEM FINAL FORM
31INITIAL FORM
32SOLATED FORM
31MEDIAL FORM
31WITH ALEF MAKSURA FINAL FORM
36YEH FINAL FORM
26NOON FINAL FORM
26REH FINAL FORM
26YEH FINAL FORM
30ISOLATED FORM
26ZAIN FINAL FORM
16QAF WITH ALEF MAKSURA FINAL FORM
38ISOLATED FORM
25HAH INITIAL FORM
30SOLATED FORM
25MEEM INITIAL FORM
31SOLATED FORM
30WITH HAH FINAL FORM
39INITIAL FORM
35MEEM FINAL FORM
35YEH FINAL FORM
25YEH FINAL FORM
29ISOLATED FORM
18LA USED AS KORANIC STOP SIGN ISOLATED FORM
17UDDISA SIRRAH
16RADI ALLAAHU ANH
32AA
32UM
34AA
33NNA
18HIMAHU ALLAAH
24M ALLAAH
18SOUL ISOLATED FORM
17EH WITH SUPERSCRIPT ALEF ISOLATED FORM
16SAD WITH ALEF MAKSURA FINAL FORM
38ISOLATED FORM
25HAH INITIAL FORM
30SOLATED FORM
29WITH HAH FINAL FORM
38INITIAL FORM
34YEH FINAL FORM
25KHAH INITIAL FORM
25MEEM INITIAL FORM
31SOLATED FORM
30WITH MEEM FINAL FORM
40INITIAL FORM
25REH FINAL FORM
29ISOLATED FORM
25YEH FINAL FORM
29ISOLATED FORM
18LAAMUHU ALAYNAA
20M ISOLATED FORM
19LA ISOLATED FORM
22USED AS KORANIC STOP SIGN ISOLATED FORM
21LLAAHU ALAYHI WA-AALIH
24HOU ALAYHE WASALLAM
25U ALAYHI WAAALIHEE WA-SALLAM
17EEN WITH ALEF MAKSURA FINAL FORM
39ISOLATED FORM
26HAH INITIAL FORM
31SOLATED FORM
30MEDIAL FORM
30WITH JEEM INITIAL FORM
27EH INITIAL FORM
30MEDIAL FORM
26JEEM INITIAL FORM
32SOLATED FORM
31MEDIAL FORM
31WITH ALEF MAKSURA FINAL FORM
36HAH INITIAL FORM
26KHAH INITIAL FORM
32SOLATED FORM
31MEDIAL FORM
31WITH ALEF MAKSURA FINAL FORM
36YEH FINAL FORM
26MEEM INITIAL FORM
32SOLATED FORM
31MEDIAL FORM
31WITH HAH FINAL FORM
40INITIAL FORM
36JEEM INITIAL FORM
36MEEM FINAL FORM
41INITIAL FORM
26REH FINAL FORM
30ISOLATED FORM
26YEH FINAL FORM
30ISOLATED FORM
17HADDA WITH DAMMA ISOLATED FORM
34MEDIAL FORM
33TAN ISOLATED FORM
28FATHA ISOLATED FORM
34MEDIAL FORM
28KASRA ISOLATED FORM
34MEDIAL FORM
33TAN ISOLATED FORM
28SUPERSCRIPT ALEF ISOLATED FORM
18EEN WITH ALEF MAKSURA FINAL FORM
40ISOLATED FORM
27HAH FINAL FORM
31INITIAL FORM
32SOLATED FORM
31MEDIAL FORM
31WITH MEEM FINAL FORM
41INITIAL FORM
36YEH FINAL FORM
28EH INITIAL FORM
31MEDIAL FORM
27JEEM FINAL FORM
32INITIAL FORM
33SOLATED FORM
32MEDIAL FORM
32WITH YEH FINAL FORM
27KHAH FINAL FORM
32INITIAL FORM
33SOLATED FORM
32MEDIAL FORM
27MEEM FINAL FORM
32INITIAL FORM
33SOLATED FORM
32MEDIAL FORM
32WITH KHAH FINAL FORM
42INITIAL FORM
37MEEM FINAL FORM
42INITIAL FORM
27REH FINAL FORM
31ISOLATED FORM
27YEH FINAL FORM
31ISOLATED FORM
17UBHAANAHU WA TAAALAA
16TABAARAKA WA-TAAALAA
18H WITH ALEF MAKSURA FINAL FORM
38ISOLATED FORM
25HAH INITIAL FORM
30SOLATED FORM
25MEEM INITIAL FORM
31SOLATED FORM
30MEDIAL FORM
30WITH HAH FINAL FORM
39INITIAL FORM
35MEEM INITIAL FORM
35YEH FINAL FORM
25YEH FINAL FORM
29ISOLATED FORM
17EH WITH ALEF MAKSURA FINAL FORM
38ISOLATED FORM
25HAH INITIAL FORM
30SOLATED FORM
29WITH JEEM FINAL FORM
39INITIAL FORM
34MEEM INITIAL FORM
26EH INITIAL FORM
29MEDIAL FORM
25JEEM INITIAL FORM
31SOLATED FORM
30WITH ALEF MAKSURA FINAL FORM
35MEEM INITIAL FORM
35YEH FINAL FORM
25KHAH INITIAL FORM
31SOLATED FORM
30WITH ALEF MAKSURA FINAL FORM
35MEEM INITIAL FORM
35YEH FINAL FORM
25MEEM FINAL FORM
30INITIAL FORM
31SOLATED FORM
30MEDIAL FORM
30WITH ALEF MAKSURA FINAL FORM
35HAH INITIAL FORM
35JEEM INITIAL FORM
35KHAH INITIAL FORM
35YEH FINAL FORM
25NOON FINAL FORM
25REH FINAL FORM
25YEH FINAL FORM
29ISOLATED FORM
25ZAIN FINAL FORM
17HAL WITH SUPERSCRIPT ALEF ISOLATED FORM
18EH WITH ALEF MAKSURA FINAL FORM
39ISOLATED FORM
26HEH MEDIAL FORM
26JEEM ISOLATED FORM
26MEEM FINAL FORM
31INITIAL FORM
32SOLATED FORM
31MEDIAL FORM
26NOON FINAL FORM
26REH FINAL FORM
26YEH FINAL FORM
30ISOLATED FORM
26ZAIN FINAL FORM
16UIGHUR KIRGHIZ YEH WITH HAMZA ABOVE WITH ALEF MAKSURA FINAL FORM
70INITIAL FORM
71SOLATED FORM
16WASALLAM ISOLATED FORM
16YEH WITH ALEF MAKSURA FINAL FORM
38ISOLATED FORM
25HAH INITIAL FORM
30SOLATED FORM
29WITH YEH FINAL FORM
27MZA ABOVE WITH AE FINAL FORM
45ISOLATED FORM
43LEF FINAL FORM
47ISOLATED FORM
47MAKSURA FINAL FORM
55ISOLATED FORM
42E FINAL FORM
44INITIAL FORM
45SOLATED FORM
42HAH INITIAL FORM
47SOLATED FORM
43EH INITIAL FORM
46MEDIAL FORM
42JEEM INITIAL FORM
48SOLATED FORM
42KHAH INITIAL FORM
42MEEM FINAL FORM
47INITIAL FORM
48SOLATED FORM
47MEDIAL FORM
42NOON FINAL FORM
42OE FINAL FORM
45ISOLATED FORM
42REH FINAL FORM
42U FINAL FORM
44ISOLATED FORM
42WAW FINAL FORM
46ISOLATED FORM
42YEH FINAL FORM
46ISOLATED FORM
43U FINAL FORM
45ISOLATED FORM
42ZAIN FINAL FORM
26EH INITIAL FORM
29MEDIAL FORM
25JEEM INITIAL FORM
31SOLATED FORM
30WITH YEH FINAL FORM
25KHAH INITIAL FORM
31SOLATED FORM
25MEEM FINAL FORM
30INITIAL FORM
31SOLATED FORM
30MEDIAL FORM
30WITH MEEM FINAL FORM
40INITIAL FORM
35YEH FINAL FORM
25NOON FINAL FORM
25REH FINAL FORM
25YEH FINAL FORM
29ISOLATED FORM
25ZAIN FINAL FORM
16ZAH WITH MEEM INITIAL FORM
31SOLATED FORM
30MEDIAL FORM
07MADDA WAAJIB
12H ABOVE
09RK NOON GHUNNA
12SIDEWAYS NOON GHUNNA
09THEMATICAL AIN
21LEF
20BEH
20DAD
22L
21OTLESS BEH
28FEH
28NOON
28QAF
22UBLE-STRUCK AIN
34BEH
34DAD
36L
34FEH
34GHAIN
34HAH
34JEEM
34KHAH
34LAM
34MEEM
34NOON
34QAF
34REH
34SAD
35EEN
35HEEN
34TAH
35EH
35HAL
36EH
34WAW
34YEH
34ZAH
36IN
20FEH
20GHAIN
20HAH
20INITIAL AIN
28BEH
28DAD
28FEH
28GHAIN
28HAH
29EH
28JEEM
28KAF
29HAH
28LAM
28MEEM
28NOON
28QAF
28SAD
29EEN
29HEEN
28TEH
29HEH
28YEH
20JEEM
20KAF
21HAH
20LAM
21OOPED AIN
28LEF
27BEH
27DAD
29L
27FEH
27GHAIN
27HAH
28EH
27JEEM
27KHAH
27LAM
27MEEM
27NOON
27QAF
27REH
27SAD
28EEN
28HEEN
27TAH
28EH
28HAL
29EH
27WAW
27YEH
27ZAH
29IN
20MEEM
20NOON
20OPERATOR HAH WITH DAL
29MEEM WITH HAH WITH TATWEEL
20QAF
20REH
20SAD
21EEN
21HEEN
21TRETCHED AIN
30BEH
30DAD
31OTLESS BEH
38FEH
30FEH
30GHAIN
30HAH
31EH
30JEEM
30KAF
31HAH
30MEEM
30NOON
30QAF
30SAD
31EEN
31HEEN
30TAH
31EH
31HEH
30YEH
30ZAH
20TAH
22ILED AIN
27DAD
28OTLESS NOON
35QAF
27GHAIN
27HAH
27JEEM
27KHAH
27LAM
27NOON
27QAF
27SAD
28EEN
28HEEN
27YEH
21EH
21HAL
22EH
20WAW
20YEH
20ZAH
22IN
07NUMBER MARK ABOVE
14SIGN
07OPEN DAMMATAN
12FATHATAN
12KASRATAN
07PERCENT SIGN
08IASTRE MARK ABOVE
08LACE OF SAJDAH
08OETIC VERSE SIGN
09UND MARK ABOVE
07QUESTION MARK
07RAISED ROUND DOT
09Y
08EVERSED DAMMA
08IGHT ARROWHEAD ABOVE
28 WITH DOT
23BELOW
08OUNDED HIGH STOP WITH FILLED CENTRE
07SEMICOLON
08HADDA
13 ISOLATED FORM
14MEDIAL FORM
08IGN ALAYHE ASSALLAM
12MISRA
12RADI ALLAHOU ANHU
14HMATULLAH ALAYHE
12SAFHA
14LLALLAHOU ALAYHE WASSALLAM
14MVAT
14NAH
13INDHI AMPERSAND
19POSTPOSITION MEN
12TAKHALLUS
08MALL DAMMA
13FARSI YEH
15THA
13HIGH AIN
18DOTLESS HEAD OF KHAH
18FARSI YEH
19OOTNOTE MARKER
18JEEM
18LAM ALEF
19IGATURE ALEF WITH LAM WITH YEH
27QAF WITH LAM WITH ALEF MAKSURA
27SAD WITH LAM WITH ALEF MAKSURA
18MADDA
19EEM INITIAL FORM
24SOLATED FORM
18NOON
22 WITH KASRA
18QAF
18ROUNDED ZERO
18SAD
19EEN
19IGN SAFHA
18TAH
19HREE DOTS
18UPRIGHT RECTANGULAR ZERO
18WAW
19ORD AL-JUZ
24N-NISF
24R-RUB
24S-SAJDA
24TH-THALATHA
23QIF
23SAH
25KTA
23WAQFA
18YEH
21 BARREE WITH TWO DOTS BELOW
18ZAH
20IN
13KASRA
13LOW MEEM
17NOON WITH KASRA
17SEEN
17WAW
18ORD IMAALA
23SHMAAM
22TASHEEL
13WAW
13YEH
08TART OF RUB EL HIZB
08UBSCRIPT ALEF
09KUN
12 BELOW
13ISOLATED FORM
13MEDIAL FORM
09PERSCRIPT ALEF MOKHASSAS
08YMBOL DOT ABOVE
18BELOW
16UBLE VERTICAL BAR BELOW
14FOUR DOTS ABOVE
24BELOW
14RING
14SMALL TAH ABOVE
24BELOW
14THREE DOTS ABOVE
25BELOW
25POINTING DOWNWARDS ABOVE
44BELOW
15WO DOTS ABOVE
23BELOW
23VERTICALLY ABOVE
34BELOW
14WASLA ABOVE
07TAIL FRAGMENT
09TWEEL
14 WITH FATHATAN ABOVE
20OVERSTRUCK HAMZA
31WAW
20TWO DOTS BELOW
08HOUSANDS SEPARATOR
08ONE LOOP ABOVE
17BELOW
12ONE DOT ABOVE
20BELOW
12TWO DOTS ABOVE
21BELOW
08RIPLE DOT PUNCTUATION MARK
08URNED DAMMA BELOW
07VERTICAL TAIL
08OWEL SIGN DOT BELOW
18INVERTED SMALL V ABOVE
18SMALL V ABOVE
07WAVY HAMZA BELOW
07ZWARAKAY
06-INDIC CUBE ROOT
13DIGIT EIGHT
19FIVE
20OUR
19NINE
19ONE
19SEVEN
20IX
19THREE
20WO
19ZERO
13FOURTH ROOT
13PER MILLE SIGN
17TEN THOUSAND SIGN
02C
02IES
02MENIAN ABBREVIATION MARK
10POSTROPHE
09CAPITAL LETTER AYB
24BEN
24CA
25HA
26EH
25O
24DA
24ECH
25H
25T
24FEH
24GHAD
25IM
24HO
24INI
24JA
25HEH
24KEH
26N
24LIWN
24MEN
24NOW
24OH
24PEH
25IWR
24RA
25EH
24SEH
25HA
24TIWN
25O
24VEW
25O
24XEH
24YI
26WN
24ZA
25HE
10OMMA
09DRAM SIGN
09EMPHASIS MARK
10XCLAMATION MARK
09FULL STOP
09HYPHEN
09MODIFIER LETTER LEFT HALF RING
09QUESTION MARK
09SMALL LETTER AYB
22BEN
22CA
23HA
24EH
23O
22DA
22ECH
23H
23T
22FEH
22GHAD
23IM
22HO
22INI
22JA
23HEH
22KEH
24N
22LIWN
22MEN
22NOW
22OH
22PEH
23IWR
22RA
23EH
22SEH
23HA
22TIWN
23O
23URNED AYB
22VEW
23O
22XEH
22YI
24 WITH STROKE
24WN
22ZA
23HE
16IGATURE ECH YIWN
24MEN ECH
28INI
28NOW
28XEH
24VEW NOW
02ROW POINTING DOWNWARDS THEN CURVING LEFTWARDS
38RIGHTWARDS
15RIGHTWARDS THEN CURVING DOWNWARDS
39SOUTH WEST
39UPWARDS
15UPWARDS THEN NORTH WEST
05HEAD-SHAPED POINTER
02TICULATED LORRY
04ST PALETTE
01SCENDING NODE
03IA SYMBOL
02SERTION
02TERISK
08 OPERATOR
07M
03ONISHED FACE
03RAEA
04ONOMICAL SYMBOL FOR URANUS
02YMPTOTICALLY EQUAL TO
01THLETIC SHOE
02OM SYMBOL
01UBERGINE
02STRAL SIGN
02TO RICKSHAW
04MATED TELLER MACHINE
05OBILE
01VESTAN ABBREVIATION MARK
08LETTER A
16A
17N
17O
16E
17E
16N
16O
15BE
16HE
15CE
15DE
16HE
15E
16E
15FE
15GE
16GE
16HE
15HE
16ME
15I
16I
15JE
15KE
15LE
15ME
15NE
16GE
17VE
17YE
16NE
16YE
15O
16O
15PE
15RE
15SE
16HE
17YE
16SHE
15TE
16HE
16TE
15U
16U
15VE
15XE
16VE
16YE
15YE
16YE
15ZE
16HE
02OCADO
01XE
00BABY
04 ANGEL
05BOTTLE
05CHICK
05SYMBOL
02CK OF ENVELOPE
05WITH LEFTWARDS ARROW ABOVE
04-TILTED SHADOWED WHITE RIGHTWARDS ARROW
04SLANTED SOUTH ARROW WITH HOOKED TAIL
31RIZONTAL TAIL
05PACE
03ON
03TRIAN CAMEL
02DGER
03MINTON RACQUET AND SHUTTLECOCK
02GEL
03GAGE CLAIM
03UETTE BREAD
02LINESE ADEG ADEG
09CARIK PAMUNGKAH
17REREN
15SIKI
09DIGIT EIGHT
15FIVE
16OUR
15NINE
15ONE
15SEVEN
16IX
15THREE
16WO
15ZERO
09LETTER AIKARA
17KARA
21 TEDUNG
17RCHAIC JNYA
17SYURA SASAK
16BA
18 KEMBANG
16CA
18 LACA
16DA
18 MADU
20URDA ALPAPRANA
25MAHAPRANA
16EF SASAK
17KARA
16GA
18 GORA
16HA
16IKARA
21 TEDUNG
16JA
18 JERA
16KA
18 MAHAPRANA
18F SASAK
17HOT SASAK
16LA
18 LENGA
24 TEDUNG
16MA
16NA
18 RAMBAT
17GA
17YA
16OKARA
21 TEDUNG
16PA
18 KAPAL
16RA
18 REPA
23 TEDUNG
16SA
18 SAGA
21PA
16TA
18 LATIK
19MURDA MAHAPRANA
19TAWA
17ZIR SASAK
16UKARA
21 TEDUNG
16VE SASAK
16WA
16YA
16ZAL SASAK
09MUSICAL SYMBOL COMBINING BENDE
34ENDEP
34GONG
34JEGOGAN
34KEMPLI
40 WITH JEGOGAN
38UL
40 WITH JEGOGAN
34TEGEH
24DAENG
26ING
26NG
28 GEDE
29SURANG
25ENG
26UNG
25ING
25ONG
25UNG
24LEFT-HAND CLOSED PLAK
43UK
34OPEN PANG
40ING
40UNG
24RIGHT-HAND CLOSED TAK
43UK
35OPEN DAG
41UG
09PAMADA
15 LANTANG
12ENENG
11NTI
14 LANTANG
09SIGN BISAH
14CECEK
14REREKAN
14SURANG
14ULU CANDRA
18RICEM
09VOWEL SIGN LA LENGA
28 TEDUNG
20PEPET
25 TEDUNG
20RA REPA
27 TEDUNG
20SUKU
24 ILUT
20TALING
26 REPA
31 TEDUNG
27TEDUNG
21EDUNG
20ULU
23 SARI
09WINDU
03L OF YARN
04ET SHOES
04OON
07-SPOKED ASTERISK
05T BOLD SCRIPT X
09X
10 WITH BALLOT
17OLD CHECK
21SCRIPT X
16CHECK
16LIGHT X
16SCRIPT X
16X
07SCRIPT X
07X
02MUM COLON
08MBINING MARK KOQNDON
21TUKWENTIS
09MA
06FULL STOP
06LETTER A
13EE
13FAAMAE
14EE
14OM
14U
13I
13KA
14EN
15T
15UX
14I
14O
15GHOM
15VUU
14PA
14U
14YEE
13LA
14EEEE
14I
14OQ
14U
13M
14A
14BAA
15EN
14EEEE
15N
14I
14O
14U
13NA
14DAA
14GA
15GA
15KWAEN
14I
14JAEM
15EE
15UAE
14SHA
14TEE
15UU
14U
15AE
14YI
13O
13PA
14EE
15UX
14HASE-A FIRI
21GBIEE FON
22HEUAEGHEUAE
27RAE
21KAFA
23Q
22ET
23UKEUTNDA
22POQ
22UOQ
21LAPAQ
22ET KUT
22OMMAE
22U
23AEP
21MAEKEUP
24M
25BGBIEE
25KPEN
25VEUX
24NYI
24SI
23NSUAE
23P PIEET
22BANYI
24Q
22EUNJOMNDEUQ
22GBASA
22ON NGGEUAET
23OMEUT
25PUQ
22VEUAENGAM
21NAA MFON
23Q
22DA LEERAEWA
24ANGGEUAET
22EN
22GANGU
23GEN
23KUE MFON
26NZEUM
22IKA
22JAM
22KAARAE
23INDI
22SHA
24IEE
22TAP
25 MFAA
26NTAA
23OQPEN
22YET
23I
24T MONGKEUAEQ
22ZA MFON
23UN MEUT
21PA LEERAEWA
23AM
24RAE
23MSHAE
23SHAE
22ET
22ON MFON PIPAEMBA
36GBIEE
25PA NJI PIPAEMBA
38GBIEE
22UP
21ROM
21SEUNYAM
22HINDA PA NJI
24RAE
23OQ NSHUT YUM
23UENSHUET
24M
22ISA
22ONJAM
23Q
23T
22UU
21TEUAEN
24TEUWEN
22ITA MFON
22U MAEMBA
23AEP
21U YUQ NAE
22NKNOWN
21VEE
19B FEE
23UX
21GHEUGHEN
28UAEM
21KAM
22EUAEM
24PUQ
24YEUX
22IEEM
23Q
21LAANAE
23M NSHUT NYAM
22ET
22OM NTEUM
21MA
23 NJEUAENA
26UQA
22BA MAELEE
24ARAE
23EURI
23IT MBAAKET
23UOQ
22EUQ
24T NGGEET
22FIYAQ
23ON TEUAEQ
22ONTIEEN
21NDU NJAA
22GGAAM
24EU MBU
24UOQ
27 LARGE
23KINDI MVOP
23OM
22SEN
23HUET
22TIEE SHEUOQ
22YAEMAE
23I NTEUM
21PARUM
22EESHI
22IT
22UNGAAM
21SAKEUAE
22ET TU
22HET NJAQ
24UAEQTU
22IEE
22UE
21TAAM
22U MAEMGBIEE
24NSIEE
21VEUM
21WUAET
21YAFU LEERAEWA
22EURAE
19C BUNG
21FUE
21GBAYI
22HAP
24RAE
21KAA
22EN FATIGUE
25LAW
23T
23UKAQ
24M
24SEUX
25HEUAEP
22PARAQ
22UOP NKAARAE
23T
21LAM
23P
22IQ
22U
21MA KEUAERI
24NSIEE
23EMBA
24SI
22BAA CABBAGE-TREE
26PICKET
24NYI
23EEKEET
24RAE
24UM
25X
23I
24RIEEN
24T
23UAEM
24E
22GBASAQ
22IEE
22UAE
21NANSANAQ
23Q
22DAM
24P
23EUAEREE
25T
23IDA
23OMBU
22GAQ
23GEN
24U
25AEN NYAM
25EET
25M
25ON
23KAQ
24UE MAEMBA
23OM
22JAEM
24M
23EEEE
24UX
23UEQ
22SA
23EUAEN
23HAQ
23OM
23UN
24OT NGOM
22TAA
23EN
24UNGBA
23U MBIT
22YIR MKPARAQ MEUN
22ZA
23EUM
21PEN
22IN
23RIEEN
21RU
21SETFON
23UX
22HIQ
23UEQ
22UAET
21TAASHAE
22ET
23UTEUX
22ITA YUE
24UAEP
21VEUAEPEN
24X
21WANGKUOQ
22UP
21YAA
22EUQ
22U MUOMAE
23M
23WOQ
19D FAA
22EUFEUAET
21GHAA
23EUAE
21KET
23UAETMEUN
24M
24OT MBUAE
24P
22U
23N
23OM
23Q
22WAET
22YEE
21LEEEE
23T
23UAEP
24M
22IEE
22OQ
22UM
21M
22AENJET
23LEERI
22BAA
25 SEVEN
23UO
22EEEE
23UN
24T
22FEUAE
25T
23IEE
23O
24N
22GBEUN
24IEE
24OFUM
22ONI
22U
22VOP
21NDAM
23EE
24UX
23ON
22GGAAM
27AE
25P
24EUX
24UOM
24WAEN
23KAP
24EUAEQ
26RI
24IEE
24UN
24YEE
22I
22JAP
23EUAEM
25T
23I
24EE
23UEQ
22SHEE
24UT
23IEEP
26T
23UM
22TEE
24UM
23UU
22U
22YAM
23ET
23I
23UE
21PAP
22EE
23UTAE
22IP
22UQ
23UT
21RAEM
22EN MUCH
25OLD
22II
21SAP
23Q
22EUAEQ
22HEE
24UAE
25X
23II
23OQ
23U
22OT
22UAE
23E
23U
21TAE
22EEEE
23UAEN
24N
24T
22I
22OQ
22U
23OT
21WAP
22UAEN
21YAEMMAE
22EN
22UOM
24P
23WOQ
19E A
21FA
23Q
22EE
22OM
22U CALL
24I
24REMEDY
23E
24T
21GBET
24UX
22HAAMAE
23ET
24UAE
25N
25X
23OM
21I
21KET
23UAE
24X
22I
22O
22PEUX
22UET
23OP
23T
21LAAM
23P
23Q
22EUAEM
22OM
23ON
24T
23Q
22U
21MA
23E
24M
23P
23Q
22BEE
24UM
22EN
22FEUQ
22GBA
24EN
22I
23EE
22ON
22UAE
22VI
21NA
23E
22DAA MY HOUSE
26SOFTNESS
24P
23IAQ
24Q
23UN
22GA
23EUREUT
23GEEEE
25UAE
28T
24UAESHAE NYAM
25P
25RAE
23KA
25AMI
24EUAEM
26X
24UM
25P
23OP
24Q
23UAE
26T
22JAEMLI
23EE
25 EPOCH
24UX
22KOM
22SHIEE
24UE
25OP
22TAP
23UM
22YI BETWEEN
25CLEAVER
22ZAQ
23UQ
21O
21PA PEOPLE
25LURAL
23A
24M
22EEM
23UT
24X
22I
23EEQ
24T
22O
23ON
22U
23AE
24Q
23E
23M
21RAE
23Q
22EUX
22IMGBA
21SAA
22EE
23T
22HEUAEQ
23IQ
23O
24Q
22OM
22UAEN
21TAA
24Q
23EN NTEUM
23M
23Q
22EN
23U
24AEQ
22OO
24N
23Q
22UAE
23M
24AE
21VEE
23UAE
22OM
21WEUX
22UE
23O
21YAP
22EUAE
26T
24M
24X
22IEE
23T
22OQ COVER
25SWIMMING
22UAEN
23EQ
23N
23Q
19F EE
21FOM
21KA
22EN
23T
22O
22PA
22U
22YEE
21LA
22I
22OQ
21M
22A
22BAA
23EN
22EEEE
22O
21NDAA
22GGA
23KWAEN
22I
22JAEM
23UAE
22SHA
22TEE
22U
23AE
22YI
21PEE
23UX
22UAE
21REE
23N
23UX
22IEE
23I
22U
21SAMBA
22EUX
22HII
23O
23U
22I
22UU
21TAA
23E
22ET
21U
21VUEQ
21WA
22UE
21YA
22OQ
14I
14UAE
15E
13RAE
14EE
15N
15UX
14IEE
15I
14U
13SAMBA
14EUX
14HEUX
15II
15O
15U
14I
14UU
13TAA
15E
14EN
15T
14I
13U
13WA
14UE
13YA
14OQ
14UQ
06NJAEMLI
06QUESTION MARK
06SEMICOLON
02NANA
03JO
03K
04NOTE WITH DOLLAR SIGN
14EURO SIGN
14POUND SIGN
14YEN SIGN
02R CHART
04OF SOAP
03BER POLE
02SEBALL
03KET
06BALL AND HOOP
03SA VAH COMBINING HIGH TONE
24-LOW TONE
20LOW TONE
23-MID TONE
20MID TONE
10FULL STOP
10LETTER A
17BA
17CE
17DHII
18O
17E
18E
18NNI
17FA
17GAH
18BU
17HWAH
17I
17JO
17KA
18PAH
17MBE
17O
18O
17PA
17SE
17TO
17U
18WU
17VU
17WA
19DDA
17YEIN
18IE
17ZO
02T
03AK CONSONANT SIGN H
21NG
06LETTER A
13BA
13CA
13DA
13GA
13HA
13I
13JA
13KARO BA
13LA
13MA
15NDAILING HA
24NA
24SA
14BA
13NA
14DA
14GA
14ORTHERN TA
14YA
13PA
15KPAK WA
13RA
13SA
14IMALUNGUN A
24GA
24HA
24LA
24MA
24PA
24RA
24SA
24WA
24YA
14OUTHERN TA
13U
13WA
13YA
06PANGOLAT
09ONGONAN
06SIGN TOMPI
07YMBOL BINDU JUDUL
19NA METEK
19PANGOLAT
20INARBORAS
06VOWEL SIGN E
18E
17I
17KARO I
22O
17O
17PAKPAK E
17U
18 FOR SIMALUNGUN SA
03H
04TUB
03TERY
01EACH WITH UMBRELLA
03MED ASCENDING MUSICAL NOTES
07DESCENDING MUSICAL NOTES
07EIGHTH NOTES
07SIXTEENTH NOTES
03NS
03R FACE
04DED PERSON
03TING HEART
03VER
02CAUSE
02D
02ER MUG
03TLE
02L
03L
04 PEPPER
05SYMBOL
05WITH CANCELLATION STROKE
04HOP BELL
02NGALI ABBREVIATION SIGN
09NJI
09U LENGTH MARK
08CURRENCY DENOMINATOR SIXTEEN
17NUMERATOR FOUR
27ONE
30 LESS THAN THE DENOMINATOR
27THREE
28WO
08DIGIT EIGHT
14FIVE
15OUR
14NINE
14ONE
14SEVEN
15IX
14THREE
15WO
14ZERO
08GANDA MARK
08ISSHAR
08LETTER A
16A
16I
16U
15BA
16HA
15CA
16HA
15DA
16DA
17HA
16HA
15E
15GA
16HA
15HA
15I
16I
15JA
16HA
15KA
16HA
18NDA TA
15LA
15MA
15NA
16GA
16NA
16YA
15O
15PA
16HA
15RA
17 WITH LOWER DIAGONAL
23MIDDLE DIAGONAL
16HA
16RA
15SA
16HA
16SA
15TA
16HA
16TA
17HA
15U
16U
15VEDIC ANUSVARA
16OCALIC L
24L
23R
24R
15YA
16YA
08RUPEE MARK
14SIGN
08SANDHI MARK
09IGN ANUSVARA
14VAGRAHA
13CANDRABINDU
13NUKTA
13VIRAMA
15SARGA
08VOWEL SIGN AA
20I
20U
19E
19I
20I
19O
19U
20U
19VOCALIC L
28L
27R
28R
03T ARROW POINTING DOWNWARDS THEN NORTH EAST
04O BOX
03ZENE RING
12 WITH CIRCLE
02T SYMBOL
03WEEN
02VERAGE BOX
01HAIKSUKI DANDA
11IGIT EIGHT
16FIVE
17OUR
16NINE
16ONE
16SEVEN
17IX
16THREE
17WO
16ZERO
11OUBLE DANDA
10GAP FILLER-1
212
10HUNDREDS UNIT MARK
10LETTER A
18A
18I
18U
17BA
18HA
17CA
18HA
17DA
18DA
19HA
18HA
17E
17GA
18HA
17HA
17I
18I
17JA
18HA
17KA
18HA
17LA
17MA
17NA
18GA
18NA
18YA
17O
17PA
18HA
17RA
17SA
18HA
18SA
17TA
18HA
18TA
19HA
17U
18U
17VA
18OCALIC L
25R
26R
17YA
10NUMBER EIGHT
22Y
17FIFTY
19VE
18ORTY
19UR
17NINE
21TY
17ONE
17SEVEN
22TY
18IX
20TY
17TEN
18HIRTY
19REE
18WENTY
19O
10SIGN ANUSVARA
16VAGRAHA
15CANDRABINDU
15VIRAMA
17SARGA
10VOWEL SIGN AA
22I
22U
21E
21I
22I
21O
21U
22U
21VOCALIC L
29R
30R
10WORD SEPARATOR
01ICYCLE
06IST
02G REVERSE SOLIDUS
04SOLIDUS
02KINI
02LLED CAP
04IARDS
02OHAZARD SIGN
02RD
03THDAY CAKE
02SON
02TCOIN SIGN
03ING LIP
01LACK BOWTIE
06CENTRE WHITE STAR
07HESS BISHOP
18 ROTATED NINETY DEGREES
27TWO HUNDRED SEVENTY DEGREES
12EQUIHOPPER
22 ROTATED NINETY DEGREES
12KING
16 ROTATED NINETY DEGREES
25TWO HUNDRED SEVENTY DEGREES
13NIGHT
18 ROTATED FORTY-FIVE DEGREES
27NINETY DEGREES
27ONE HUNDRED THIRTY-FIVE DEGREES
27THREE HUNDRED FIFTEEN DEGREES
28WO HUNDRED SEVENTY DEGREES
39TWENTY-FIVE DEGREES
18-BISHOP
19QUEEN
19ROOK
12PAWN
16 ROTATED NINETY DEGREES
25TWO HUNDRED SEVENTY DEGREES
12QUEEN
17 ROTATED NINETY DEGREES
26TWO HUNDRED SEVENTY DEGREES
12ROOK
16 ROTATED NINETY DEGREES
25TWO HUNDRED SEVENTY DEGREES
12TURNED BISHOP
19KING
20NIGHT
19PAWN
19QUEEN
19ROOK
07IRCLE
12 FOR RECORD
13WITH DOWN ARROW
18TWO WHITE DOTS
18WHITE DOT RIGHT
07LUB SUIT
07ROSS ON SHIELD
07URVED DOWNWARDS AND LEFTWARDS ARROW
27RIGHTWARDS ARROW
13LEFTWARDS AND DOWNWARDS ARROW
27UPWARDS ARROW
13RIGHTWARDS AND DOWNWARDS ARROW
28UPWARDS ARROW
13UPWARDS AND LEFTWARDS ARROW
25RIGHTWARDS ARROW
06DIAMOND
13 CENTRED
14MINUS WHITE X
14ON CROSS
14SUIT
14WITH DOWN ARROW
07OWN POINTING BACKHAND INDEX
10-POINTING DOUBLE TRIANGLE
20ISOSCELES RIGHT TRIANGLE
20SMALL TRIANGLE
20TRIANGLE
10WARDS EQUILATERAL ARROWHEAD
07RAUGHTS KING
15MAN
08OPLET
06FLAG
08ORETTE
07OLDER
08UR POINTED STAR
06HARD SHELL FLOPPY DISK
07EART
11 SUIT
08XAGON
07ORIZONTAL ELLIPSE
08URGLASS
06LARGE CIRCLE
12SQUARE
07EFT LANE MERGE
11POINTING BACKHAND INDEX
20INDEX
10-POINTING DOUBLE TRIANGLE
35 WITH VERTICAL BAR
20ISOSCELES RIGHT TRIANGLE
20POINTER
20SMALL TRIANGLE
20TRIANGLE
10WARDS BULLET
16EQUILATERAL ARROWHEAD
07OWER LEFT TRIANGLE
12RIGHT TRIANGLE
08ZENGE
06MEDIUM DIAMOND
14OWN-POINTING TRIANGLE
35 CENTRED
13LEFT-POINTING TRIANGLE
35 CENTRED
14OZENGE
13RIGHT-POINTING TRIANGLE
36 CENTRED
13SMALL DIAMOND
19LOZENGE
19SQUARE
14QUARE
13UP-POINTING TRIANGLE
33 CENTRED
07OON LILITH
06NIB
06OCTAGON
06PARALLELOGRAM
07ENNANT
09TAGON
07USHPIN
06QUESTION MARK ORNAMENT
06RECTANGLE
07IGHT POINTING BACKHAND INDEX
21INDEX
11-POINTING DOUBLE TRIANGLE
36 WITH VERTICAL BAR
21ISOSCELES RIGHT TRIANGLE
21PENTAGON
22OINTER
21SMALL TRIANGLE
21TRIANGLE
29 WITH DOUBLE VERTICAL BAR
11WARDS ARROW
22HEAD
17BULLET
17EQUILATERAL ARROWHEAD
07OSETTE
06SAFETY SCISSORS
07CISSORS
07HOGI PIECE
07KULL AND CROSSBONES
07LIGHTLY SMALL CIRCLE
21SQUARE
07MALL DIAMOND
12LOZENGE
12SQUARE
13TAR
08ILING FACE
07NOWMAN
07PADE SUIT
07QUARE
12 BUTTON
13CENTRED
13FOR STOP
07TAR
07UN WITH RAYS
06TELEPHONE
07INY DIAMOND
11LOZENGE
11SQUARE
07OUCHTONE TELEPHONE"

/-- Names from `BLACK TRUCK` on. -/
def namesB : String :=
"00BLACK TRUCK
07WO-WAY LEFT WAY TRAFFIC
06UNIVERSAL RECYCLING SYMBOL
07P POINTING BACKHAND INDEX
08-POINTING DOUBLE TRIANGLE
18ISOSCELES RIGHT TRIANGLE
18SMALL TRIANGLE
18TRIANGLE
08PER LEFT TRIANGLE
12RIGHT TRIANGLE
08WARDS EQUILATERAL ARROWHEAD
06VERTICAL ELLIPSE
15RECTANGLE
09Y SMALL DIAMOND
17LOZENGE
17SQUARE
05-FEATHERED NORTH EAST ARROW
16RIGHTWARDS ARROW
16SOUTH EAST ARROW
06LETTER CAPITAL C
21H
21I
21R
21Z
03NK SYMBOL
02OCK SEXTANT-1
152
163
174
185
186
175
186
176
164
175
186
176
165
176
166
153
164
175
186
176
1656
166
154
165
176
166
155
166
156
142
153
164
175
186
176
165
176
166
154
165
176
155
166
156
143
154
165
176
166
155
166
156
144
155
166
156
145
156
146
03SSOM
03WFISH
02UE BOOK
05HEART
04BERRIES
01OAR
02LD EIGHT SPOKED ASTERISK
05FIVE SPOKED ASTERISK
05GREEK CROSS
05SALTIRE
06IX SPOKED ASTERISK
05WHITE CIRCLE
11SQUARE
02M
03B
02NE
02OK
04MARK
08 TABS
04S
03MERANG
02POMOFO FINAL LETTER G
22H
22K
22P
22T
09LETTER A
17H
17I
18NN
17M
17N
18G
18N
17U
18NN
16B
17U
16C
17H
16D
16E
17E
17H
17I
17N
18G
18N
17R
16F
16G
17H
17N
17U
17W
16H
16I
17H
17M
17NN
19N
17R
17U
16J
17I
16K
17W
16L
17H
16M
16N
17G
18G
17N
16O
17 WITH DOT ABOVE
17E
17M
17NG
18N
17O
17U
16P
16Q
16R
16S
17H
16T
16U
17NN
16V
16X
16Z
17H
17I
17Y
02TTLE WITH POPPING CORK
04OM ARC ANTICLOCKWISE ARROW
07CURLY BRACKET
07HALF BLACK CIRCLE
12INTEGRAL
12LEFT PARENTHESIS
12RIGHT PARENTHESIS
07LEFT CORNER
13ROP
12HALF BRACKET
07PARENTHESIS
07RIGHT CORNER
14ROP
13HALF BRACKET
07SQUARE BRACKET
21 OVER TOP SQUARE BRACKET
07TORTOISE SHELL BRACKET
02UQUET
07 OF FLOWERS
02W AND ARROW
03L OF HYGIEIA
05WITH SPOON
04ING
03TIE
06 WITH LEFT HALF BLACK
12RIGHT HALF BLACK
02X DRAWINGS DOUBLE DOWN AND HORIZONTAL
29LEFT
29RIGHT
20HORIZONTAL
20UP AND HORIZONTAL
27LEFT
27RIGHT
20VERTICAL
28 AND HORIZONTAL
33LEFT
33RIGHT
15WN DOUBLE AND HORIZONTAL SINGLE
29LEFT SINGLE
29RIGHT SINGLE
18HEAVY AND HORIZONTAL LIGHT
28LEFT LIGHT
33UP LIGHT
28RIGHT LIGHT
34UP LIGHT
28UP HORIZONTAL LIGHT
18LIGHT AND HORIZONTAL HEAVY
28LEFT HEAVY
33UP HEAVY
28RIGHT HEAVY
34UP HEAVY
28UP HORIZONTAL HEAVY
18SINGLE AND HORIZONTAL DOUBLE
29LEFT DOUBLE
29RIGHT DOUBLE
13HEAVY DOUBLE DASH HORIZONTAL
31VERTICAL
21WN
23 AND HORIZONTAL
28LEFT
28RIGHT
19HORIZONTAL
19LEFT
23 AND LIGHT RIGHT
19QUADRUPLE DASH HORIZONTAL
34VERTICAL
19RIGHT
19TRIPLE DASH HORIZONTAL
31VERTICAL
19UP
21 AND HORIZONTAL
26LEFT
27IGHT DOWN
26RIGHT
19VERTICAL
27 AND HORIZONTAL
32LEFT
32RIGHT
13LEFT DOWN HEAVY AND RIGHT UP LIGHT
18HEAVY AND RIGHT DOWN LIGHT
34UP LIGHT
34VERTICAL LIGHT
18LIGHT AND RIGHT DOWN HEAVY
34UP HEAVY
34VERTICAL HEAVY
18UP HEAVY AND RIGHT DOWN LIGHT
14IGHT ARC DOWN AND LEFT
32RIGHT
23UP AND LEFT
30RIGHT
19DIAGONAL CROSS
28DIAMOND
28MIDDLE LEFT TO LOWER CENTRE
55 TO MIDDLE RIGHT
43UPPER CENTRE TO MIDDLE RIGHT
71 TO LOWER CENTRE
35RIGHT TO LOWER CENTRE
44UPPER CENTRE TO MIDDLE LEFT TO LOWER CENTRE
28UPPER CENTRE TO MIDDLE LEFT
55 AND MIDDLE RIGHT TO LOWER CENTRE
56TO LOWER CENTRE
71 TO MIDDLE RIGHT
51RIGHT
56 AND MIDDLE LEFT TO LOWER CENTRE
57TO LOWER CENTRE
72 TO MIDDLE LEFT
34LEFT TO LOWER RIGHT
34RIGHT TO LOWER LEFT
20OUBLE DASH HORIZONTAL
31VERTICAL
21WN
23 AND HORIZONTAL
28LEFT
28RIGHT
19HORIZONTAL
29 WITH VERTICAL STROKE
19LEFT
23 AND HEAVY RIGHT
19QUADRUPLE DASH HORIZONTAL
34VERTICAL
19RIGHT
19TRIPLE DASH HORIZONTAL
31VERTICAL
19UP
21 AND HEAVY DOWN
27ORIZONTAL
26LEFT
26RIGHT
19VERTICAL
27 AND HORIZONTAL
32LEFT
32RIGHT
13RIGHT DOWN HEAVY AND LEFT UP LIGHT
19HEAVY AND LEFT DOWN LIGHT
34UP LIGHT
34VERTICAL LIGHT
19LIGHT AND LEFT DOWN HEAVY
34UP HEAVY
34VERTICAL HEAVY
19UP HEAVY AND LEFT DOWN LIGHT
13UP DOUBLE AND HORIZONTAL SINGLE
27LEFT SINGLE
27RIGHT SINGLE
16HEAVY AND DOWN HORIZONTAL LIGHT
26HORIZONTAL LIGHT
26LEFT DOWN LIGHT
31LIGHT
26RIGHT DOWN LIGHT
32LIGHT
16LIGHT AND DOWN HORIZONTAL HEAVY
26HORIZONTAL HEAVY
26LEFT DOWN HEAVY
31HEAVY
26RIGHT DOWN HEAVY
32HEAVY
16SINGLE AND HORIZONTAL DOUBLE
27LEFT DOUBLE
27RIGHT DOUBLE
13VERTICAL DOUBLE AND HORIZONTAL SINGLE
33LEFT SINGLE
33RIGHT SINGLE
22HEAVY AND HORIZONTAL LIGHT
32LEFT LIGHT
32RIGHT LIGHT
22LIGHT AND HORIZONTAL HEAVY
32LEFT HEAVY
32RIGHT HEAVY
22SINGLE AND HORIZONTAL DOUBLE
33LEFT DOUBLE
33RIGHT DOUBLE
03ING GLOVE
02Y
03S SYMBOL
01PH
01RAHMI DANDA
08IGIT EIGHT
13FIVE
14OUR
13NINE
13ONE
13SEVEN
14IX
13THREE
14WO
13ZERO
08OUBLE DANDA
07LETTER A
15A
15I
15U
14BA
15HA
14CA
15HA
14DA
15DA
16HA
15HA
14E
14GA
15HA
14HA
14I
15I
14JA
15HA
14KA
15HA
14LA
15LA
14MA
14NA
15GA
15NA
15YA
14O
15LD TAMIL LLA
26LA
24NNNA
24RRA
24SHORT E
30O
14PA
15HA
14RA
14SA
15HA
15SA
14TA
15HA
15TA
16HA
14U
15U
14VA
15OCALIC L
23L
22R
23R
14YA
07NUMBER EIGHT
19Y
14FIFTY
16VE
15ORTY
16UR
14JOINER
14NINE
18TY
14ONE
17 HUNDRED
18THOUSAND
14SEVEN
19TY
15IX
17TY
14TEN
15HIRTY
16REE
15WENTY
16O
07PUNCTUATION CRESCENT BAR
19DOT
21UBLE DOT
19LINE
20OTUS
07SIGN ANUSVARA
12CANDRABINDU
12JIHVAMULIYA
12OLD TAMIL VIRAMA
12UPADHMANIYA
12VISARGA
07VIRAMA
08OWEL SIGN AA
19I
19U
18BHATTIPROLU AA
18E
18I
19I
18O
19LD TAMIL SHORT E
34O
18U
19U
18VOCALIC L
27L
26R
27R
03ILLE PATTERN BLANK
16DOTS-1
222
233
244
255
266
277
288
278
267
278
268
256
267
278
268
257
268
258
245
256
267
278
268
257
268
258
246
257
268
258
247
258
248
234
245
256
267
278
268
257
268
258
246
257
268
258
247
258
248
235
246
257
268
258
247
258
248
236
247
258
248
237
248
238
223
234
245
256
267
278
268
257
268
258
246
257
268
258
247
258
248
235
246
257
268
258
247
258
248
236
247
258
248
237
248
238
224
235
246
257
268
258
247
258
248
236
247
258
248
237
248
238
225
236
247
258
248
237
248
238
226
237
248
238
227
238
228
212
223
234
245
256
267
278
268
257
268
258
246
257
268
258
247
258
248
235
246
257
268
258
247
258
248
236
247
258
248
237
248
238
224
235
246
257
268
258
247
258
248
236
247
258
248
237
248
238
225
236
247
258
248
237
248
238
226
237
248
238
227
238
228
213
224
235
246
257
268
258
247
258
248
236
247
258
248
237
248
238
225
236
247
258
248
237
248
238
226
237
248
238
227
238
228
214
225
236
247
258
248
237
248
238
226
237
248
238
227
238
228
215
226
237
248
238
227
238
228
216
227
238
228
217
228
218
04N
02EAD
04K PERMITTED HERE
04ST-FEEDING
03VE
02ICK
03DE WITH VEIL
04GE AT NIGHT
03EFCASE
05S
02OCCOLI
03KEN BAR
07CIRCLE WITH NORTHWEST ARROW
07HEART
03OM
03WN HEART
01S
01UBBLE TEA
06S
02CKET
02G
03INESE END OF SECTION
09LETTER A
16BA
16CA
16DA
16GA
16HA
16JA
16KA
16LA
16MA
17PA
16NA
17GA
18KA
17RA
17YA
18CA
16PA
16RA
16SA
16TA
16VA
16YA
09PALLAWA
09VOWEL SIGN AE
20E
20I
20O
20U
02HID LETTER A
13BA
13DA
13GA
13HA
13I
13KA
13LA
13MA
13NA
14GA
13PA
13RA
13SA
13TA
13U
13WA
13YA
06VOWEL SIGN I
17U
02ILDING CONSTRUCTION
02LLET
06 OPERATOR
04HORN
08 WITH SOUND WAVES
04SEYE
02RRITO
02S
03 STOP
03T IN SILHOUETTE
04S IN SILHOUETTE
02TTER
06FLY
01YTE ORDER MARK
02ZANTINE MUSICAL SYMBOL AGOGI ARGI
34OTERI
31GORGI
35OTERI
31MESI
33TRIA
31POLI ARGI
36GORGI
26NATRICHISMA
27TIKENOKYLISMA
33MA
26PESO EKFONITIKON
32XO NEO
27LI
27ODERMA ARCHAION
34NEO
28STROFOI SYNDESMOS NEO
36TELOUS ICHIMATOS
34S
35 DIPLI
36NEO
28THEMA
26RGON
29SYNTHETON
27KTIKO DI
33GA
33KE
33NI
33PA
33VOU
33ZO
25CHAMILI
31ON
27OREVMA ARCHAION
34NEO
27ROA KLITON
31SPATHI
31ZYGOS
25DASEIA
26IARGON
28STOLI APLI MEGALI
40IKRI
34DIPLI
34THESEOS
27ESIS APLI DYO DODEKATA
32DIGRAMMOS EX DODEKATA
32MONOGRAMMOS TESSERA DODEKATA
32TETARTIMORION
33RIGRAMMOS OKTO DODEKATA
35TIMORION
27FTOGGOS OU
27GORGON
33 PARESTIGMENON ARISTERA ANO
57KATO
48DEXIA
28RAMMA GG
27PLI
30 ARCHAION
26YO
25EKSTREPTON
26LAFRON
26NARXIS KAI FTHORA VOU
27DOFONON
26PEGERMA
26TERON ARGOSYNTHETON
32PARAKALESMA
26XO EKFONITIKON
25FANEROSIS DIFONIAS
35MONOFONIAS
35TETRAFONIAS
26HTORA SKLIRON CHROMA VASIS
26THORA ARCHAION
40 DEYTEROU ICHOU
32DIATONIKI DI
42KE
42NANA
43I ANO
45KATO
42PA
42ZO
32ENARMONIOS ANTIFONIA
32I YFESIS TETARTIMORION
32MALAKON CHROMA DIFONIAS
47MONOFONIAS
32NAOS ICHOS
33ENANO
32SKLIRON CHROMA SYNAFI
47VASIS
40DIATONON DI
25GENIKI DIESIS
32YFESIS
26ORGON ARCHAION
32NEO ANO
36KATO
32PARESTIGMENON ARISTERA
46DEXIA
30SYNTHETON
28THMIKON N APLOUN
38DIPLOUN
26RONTHISMATA
25ICHADIN
26MIDIARGON
28FONON
29THORA
33ON
26SAKIA TELOUS ICHIMATOS
27ON ARCHAION
30NEO
25KATAVA TROMIKON
31SMA
28HISTI
26ENTIMA ARCHAION
33NEO ANO
37KATO
37MESO
32TA
34 ARCHAION
35NEO ANO
39KATO
39MESO
26LASMA
31 ANO
32KATO
26ONTEVMA
33 ALLO
27RONIS
27UFISMA
26RATIMA ALLO
34RCHAION
33NEO
32TA
31OKOUFISMA
32YPORROON
27EMASTI
26YLISMA
25LEIMMA DYO CHRONON
32ENOS CHRONOU
32IMISEOS CHRONOU
32TESSARON CHRONON
33RION CHRONON
27MOI
26YGISMA
25MARTYRIA ALLI DEYTEROS ICHOS
39PROTOS ICHOS
34DEYTEROS ICHOS
34LEGETOS ICHOS
34PLAGIOS ICHOS
42TETARTOS ICHOS
35ROTOS ICHOS
39VARYS ICHOS
34TETARTOS ICHOS
43LEGETOS ICHOS
35RIFONIAS
37TOS ICHOS
34VARYS ICHOS
26IKRON ISON
25NANA
25OLIGON ARCHAION
32NEO
26MALON
26XEIA DIPLI
31EKFONITIKON
31NEO
30I ARCHAION
26YRANISMA ARCHAION
35NEO
25PARAKALESMA ARCHAION
37NEO
30LITIKI
36 ARCHAION
37NEO
28ICHON
26ELASTON
33 NEO
27RISPOMENI
27TASMA
30TI
31OKOUFISMA
26IASMA ARCHAION
32NEO
26SIFISTOLYGISMA
33N
34 NEO
33PARAKALESMA
33SYNAGMA
28LI
29ON
25RAPISMA
26EVMA
25SAXIMATA
26EISMA
31 NEO
26IMANSIS ARSEOS
40 DISIMOU
41TETRASIMOU
42RISIMOU
34THESEOS
41 DISIMOU
42TETRASIMOU
43RISIMOU
26TAVROS
32 APODEXIA
27IGMA
27RAGGISMATA
26YNAGMA ARCHAION
33META STAVROU
33NEO
28EVMA
27RMA
30TIKI
25TELEIA
27SSERA
27TRAPLI
26HEMA
30 APLOUN
30TISMOS ESO
38XO
28S KAI APOTHES
27ITA
26INAGMA
26RIA
28GORGON
28PLI
27OMIKOLYGISMA
32N ALLO
35RCHAION
34NEO
32PARAKALESMA
33SIFISTON
32SYNAGMA
25VAREIA DIPLI
32EKFONITIKON
32NEO
31I ARCHAION
27THY
25XIRON KLASMA
25YFEN ANO
30KATO
28SIS APLI DYO DODEKATA
32DIGRAMMOS EX DODEKATA
32MONOGRAMMOS TESSERA DODEKATA
32TRIGRAMMOS OKTO DODEKATA
35TIMORION
26POKRISIS
34 DIPLI
28RROI
27SILI
00CACTUS
02DA UNA
03UCEUS
02LENDAR
03L ME HAND
02MERA
06 WITH FLASH
03PING
02N
03ADIAN SYLLABICS A
20A
21I
21Y
20I
21VILIK B
20N
20THAPASCAN M
30S
20Y
19BEAVER DENE L
31R
20IBLE-CREE Y
20LACKFOOT A
29E
29I
29KA
30E
30I
30O
29NA
30E
30I
30O
29O
29S
29W
30A
30E
30I
30O
19C
20A
21A
22I
21RRIER CHA
29E
30E
29I
29O
29U
27DEE
29NE GEE
30TAL S
28I
28LA
29E
30E
29I
29O
29U
28ZA
29E
30E
29I
29O
29U
27EE
27GA
29A
28E
29E
28HA
29E
30E
29I
29O
29U
28I
28O
28U
28WA
29U
27H
28EE
28I
28WA
29E
30E
29I
29O
29U
27I
28NITIAL Z
27JA
28E
29E
28I
28JA
29E
30E
29I
29O
29U
28O
28U
28WA
27KHA
29E
30E
29I
29O
29U
28K
29A
29E
30E
29I
29O
29U
27LA
28E
29E
28HA
29E
30E
29I
29O
29U
28I
28O
28U
27MA
28E
29E
28I
28O
28U
27NA
28E
29E
28G
28I
28O
28U
27P
28A
28E
29E
28I
28O
28U
27RA
28E
29E
28I
28O
28U
27SA
28E
29E
28H
29A
29E
30E
29I
29O
29U
28I
28O
28U
27THA
29E
30E
29I
29O
29U
28LA
29E
30E
29HA
30E
31E
30I
30O
30U
29I
29O
29U
28SA
29E
30E
29I
29O
29U
28TA
29E
30E
29I
29O
29SA
30E
31E
30I
30O
30U
29U
27WA
28E
29E
28I
28O
28U
27YA
28E
29E
28I
28O
28U
27Z
28A
28E
29E
28I
28O
28U
20E
20HI SIGN
20I
21I
20O
21O
20WA
22A
21E
21I
22I
21O
22O
19E
20ASTERN W
20N
19F
20A
21A
22I
20E
20I
21I
21NAL ACUTE
25BOTTOM HALF RING
25DOUBLE ACUTE
32SHORT VERTICAL STROKES
27WN TACK
25GRAVE
25MIDDLE DOT
25PLUS
25RAISED DOT
26IGHT HALF RING
27NG
25SHORT HORIZONTAL STROKE
26MALL RING
25TOP HALF RING
20O
21O
20ULL STOP
20WAA
19GLOTTAL STOP
19HK
20YPHEN
19I
20I
20N
19K
20A
21A
22I
21Y
20E
20I
21I
20O
21O
20W
21A
22A
22Y
21E
21I
22I
21O
22O
19L
20A
21A
22I
21Y
20E
20H
21A
22A
21I
22I
21O
22O
20I
21I
20O
21O
20WA
22A
21E
21I
22I
21O
22O
19M
20A
21A
22I
21Y
20E
21DIAL L
26R
20H
20I
21I
20O
21O
22SE-CREE SK
20WA
22A
21E
21I
22I
21O
22O
19N
20-CREE THE
28I
29I
20A
21A
22I
21SKAPI CWAA
27KWAA
27MWAA
27NWAA
27S-W
28CWA
28KW
30A
28PWA
28TWA
28WAA
27TWAA
27WAA
28OO
27YWAA
21TTILIK HA
30A
29I
30I
29O
30O
28SHRA
32A
31I
32I
31O
32O
21Y
20E
20G
21A
22A
23I
22I
21I
22I
21O
22O
20H
20I
21I
20NG
22A
23A
22I
23I
22O
23O
20O
21O
21Y
20UNAVIK H
28A
29A
28E
28I
29I
28O
29O
24UT H
20WA
22A
21E
21I
22I
21O
22O
19O
20JIBWAY C
27K
27M
27N
28WI
30I
29O
30O
27P
27S
28H
27T
20N
20O
20Y
19P
20A
21A
22I
21Y
20E
20I
21I
20O
21O
21Y
20WA
22A
21E
21I
22I
21O
22O
22Y
19Q
20A
21A
22I
21I
20I
21I
20O
21O
19R
20-CREE RE
27WE
20A
21A
22I
21Y
20E
20I
21I
20O
21O
20WA
22A
21EE
21I
22I
21O
22O
19S
20A
21A
22I
21Y
22ISI HA
27E
27I
27O
28O
26JI
27U
28U
26M
26SHA
28E
28I
28O
29O
28WE
26TH
26YI
20E
20H
21A
22A
22Y
21E
21I
22I
21O
22O
22Y
21WA
23A
22E
22I
23I
22O
23O
23Y
20I
21I
20O
21O
21UTH-SLAVEY KAH
33EH
33IH
33OH
21Y
20PA
21E
21I
21O
20W
21A
22A
21E
21I
22I
21O
22O
19T
20A
21A
22I
21Y
20E
20H
21-CREE TH
29A
30A
29E
29I
30I
29O
30O
21A
22A
21E
21I
22I
21O
22O
21WA
23A
22E
20I
21I
20LHA
22E
22I
22O
23O
22WE
20O
21O
20TA
21E
21H
22A
23A
22E
22I
22O
23O
22WE
21I
21O
20WA
22A
21E
21I
22I
21O
22O
20YA
21E
21I
21O
19WA
21A
21Y
20E
21ST-CREE CWA
32A
31E
31I
32I
31O
32O
29FWAA
29KWA
32A
31E
31I
32I
31O
32O
29L
30A
31A
30E
30O
31O
30WA
32A
31E
31I
32I
31O
32O
29M
30WA
32A
31E
31I
32I
31O
32O
29NWA
32A
31E
29P
30WA
32A
31E
31I
32I
31O
32O
29R
30A
30E
30I
30O
30WAA
29SHWA
33A
32E
32I
33I
32O
33O
30WA
32A
31E
31I
32I
31O
32O
29THWAA
30WA
32A
31E
31I
32I
31O
32O
29WA
31A
30E
30I
31I
30O
31O
29Y
30WA
32A
31E
31I
32I
31O
32O
23ERN W
20I
21I
20O
21O
22DS-CREE FINAL TH
30TH
32A
32E
32I
32O
32WA
34A
33EE
33I
34I
33O
34O
19Y
20-CREE COO
26KOO
26LOO
26MOO
26NOO
26OO
26POO
27WAA
26SOO
26TOO
26W
26YOO
20A
21A
22I
21Y
20E
20I
21I
20O
21O
21Y
20WA
22A
21E
21I
22I
21O
22O
03CEL
06 CHARACTER
07TAG
06LATION X
05R
03DLE
04Y
03NED FOOD
03OE
02PITULUM
03RICORN
02R SLIDING
03D FILE BOX
05INDEX
10 DIVIDERS
03E OF
04T
05 INSERTION POINT
03IAN LETTER A
152
14B
14C-18
1639
14D
152
14E
152
14G
152
14I
15I
14K
152
14L
15D
162
14M
15B
162
163
164
14N
15D
15G
15N
14O
14P
152
14Q
14R
15R
14S
15H
162
15S
15T
162
14T
15T
162
14U
15U
16U
172
173
17U
14X
03ON
04USEL HORSE
03P STREAMER
04ENTRY SAW
03RIAGE RETURN
04OT
02STLE
02T
03 FACE
08 WITH TEARS OF JOY
14WRY SMILE
02UCASIAN ALBANIAN CITATION MARK
19LETTER ALT
27OR
26BET
26CAR
28YN
27HA
29T
28I
28OY
27YAW
29Y
26DAT
27YAN
27ZAY
28YAY
26EB
27YN
26FAM
26GHEYS
27IM
26HEYT
26INYA
27RB
27WN
26JAYN
27HOX
26KAR
27IW
26LAN
27YIT
26MAQ
26NOWC
26ON
26PEN
27IWR
26QAR
28Y
26RAT
26SEYK
27HA
29K
28OY
26TAS
27IWR
27YAY
26VEYZ
26XEYN
26YAYD
27OWD
26ZARL
27HA
28IL
03TION SIGN
01CH
01EDI SIGN
04LLA
02LTIC CROSS
02NT SIGN
04RE LINE SYMBOL
06LINE LOW LINE
11OVERLINE
02RES
01GJ
01HAINS
04R
03KMA AU MARK
07DANDA
08IGIT EIGHT
13FIVE
14OUR
13NINE
13ONE
13SEVEN
14IX
13THREE
14WO
13ZERO
08OUBLE DANDA
07LETTER AA
14BAA
15HAA
14CAA
15HAA
14DAA
15DAA
16HAA
15HAA
14E
14GAA
15HAA
14HAA
14I
14JAA
15HAA
14KAA
15HAA
14LAA
15HAA
14MAA
14NAA
15GAA
15NAA
15YAA
14PAA
15HAA
14RAA
14SAA
14TAA
15HAA
15TAA
16HAA
14U
14VAA
14WAA
14YAA
15YAA
07MAAYYAA
07O MARK
07QUESTION MARK
07SECTION MARK
08IGN ANUSVARA
12CANDRABINDU
12VISARGA
07VIRAMA
08OWEL SIGN A
19A
19I
19U
18E
19I
18I
19I
18O
19I
18U
19U
03M CONSONANT SIGN FINAL H
26M
26NG
20LA
20RA
20WA
20YA
05DIGIT EIGHT
11FIVE
12OUR
11NINE
11ONE
11SEVEN
12IX
11THREE
12WO
11ZERO
05LETTER A
13I
12BA
13BA
13HA
12CHA
14HA
12DA
13DA
13HA
12E
12FINAL CH
18G
18K
18L
18N
19G
18P
18R
18SS
18T
18Y
12GA
13HA
12HA
12I
12JA
13HA
12KA
13HA
12LA
12MA
13UE
12NA
13GA
14UE
13HA
14JA
14UE
13UE
12O
12PA
13HA
13PA
12RA
12SA
13SA
12TA
13HA
12U
12VA
12YA
05PUNCTUATION DANDA
18OUBLE DANDA
17SPIRAL
17TRIPLE DANDA
05VOWEL SIGN AA
17I
17U
16EI
16I
17I
16O
17E
16U
17E
03RACTER TABULATION
20 SET
21WITH JUSTIFICATION
11IE
04T WITH DOWNWARDS TREND
11UPWARDS TREND
24 AND YEN SIGN
02ECK MARK
05ER BOARD
13 FILL
03ERING MEGAPHONE
04SE WEDGE
03QUERED FLAG
03ROKEE LETTER A
16DA
17E
17I
17LA
17O
17U
17V
16E
16GA
17E
17I
17O
17U
17V
16HA
17E
17I
17NA
17O
17U
17V
16I
16KA
16LA
17E
17I
17O
17U
17V
16MA
17E
17I
17O
17U
17V
16NA
18H
17E
17I
17O
17U
17V
16O
16QUA
18E
18I
18O
18U
18V
16S
17A
17E
17I
17O
17U
17V
16TA
17E
17I
17LA
18E
18I
18O
18U
18V
17SA
18E
18I
18O
18U
18V
16U
16V
16WA
17E
17I
17O
17U
17V
16YA
17E
17I
17O
17U
17V
09SMALL LETTER A
22DA
23E
23I
23LA
23O
23U
23V
22E
22GA
23E
23I
23O
23U
23V
22HA
23E
23I
23NA
23O
23U
23V
22I
22KA
22LA
23E
23I
23O
23U
23V
22MA
23E
23I
23O
23U
23V
22NA
24H
23E
23I
23O
23U
23V
22O
22QUA
24E
24I
24O
24U
24V
22S
23A
23E
23I
23O
23U
23V
22TA
23E
23I
23LA
24E
24I
24O
24U
24V
23SA
24E
24I
24O
24U
24V
22U
22V
22WA
23E
23I
23O
23U
23V
22YA
23E
23I
23O
23U
23V
04RIES
05Y BLOSSOM
03STNUT
02I RHO
03CKEN
03LD
05REN CROSSING
03PMUNK
03RON
02OCOLATE BAR
03PSTICKS
03RASMIAN LETTER ALEPH
19YIN
18BETH
18CURLED WAW
18DALETH
18GIMEL
18HE
20TH
18KAPH
18LAMEDH
18MEM
18NUN
18PE
18RESH
18SAMEKH
19HIN
19MALL ALEPH
18TAW
18WAW
18YODH
18ZAYIN
11NUMBER FOUR
18ONE
21 HUNDRED
18TEN
19HREE
19WENTY
20O
02RISTMAS TREE
02URCH
01INEMA
02RCLE DIVIDED BY HORIZONTAL BAR AND TOP HALF DIVIDED BY VERTICAL BAR
07WITH ALL BUT UPPER LEFT QUADRANT BLACK
12HORIZONTAL BAR
12LEFT HALF BLACK
13OWER HALF BLACK
12RIGHT HALF BLACK
12SMALL CIRCLE TO THE RIGHT
13UPERIMPOSED X
12TWO HORIZONTAL STROKES TO THE RIGHT
12UPPER HALF BLACK
18RIGHT QUADRANT BLACK
12VERTICAL FILL
06D ANTICLOCKWISE ARROW
21-ROTATED DIVISION SIGN
09STERISK OPERATOR
08BOLD X
09ULLET
08C WITH OVERLAID BACKSLASH
09C
09D
09ROSS FORMEE
20 WITH FOUR DOTS
26TWO DOTS
14POMMEE
13ING LANES
08DASH
09IGIT EIGHT
14FIVE
15OUR
14NINE
14ONE
14SEVEN
15IX
14THREE
15WO
14ZERO
10VISION SIGN
18LASH
09OLLAR SIGN WITH OVERLAID BACKSLASH
10T OPERATOR
08EQUALS
08GREATER-THAN
08HANGUL CHIEUCH
22 A
16IEUC
20 A
15HIEUH
20 A
15IEUNG
20 A
21U
15KHIEUKH
22 A
16IYEOK
21 A
15MIEUM
20 A
15NIEUN
20 A
15PHIEUPH
22 A
16IEUP
20 A
15RIEUL
20 A
15SIOS
19 A
15THIEUTH
22 A
16IKEUT
21 A
09EAVY WHITE RIGHTWARDS ARROW
09ORIZONTAL BAR WITH NOTCH
09UMAN FIGURE
08IDEOGRAPH ACCEPT
19DVANTAGE
19LLIANCE
19TTENTION
18CENTRE
19ONGRATULATION
20PY
20RRECT
18EARTH
19IGHT
19NTERPRISE
19XCELLENT
18FEMALE
19INANCIAL
20RE
20VE
19OUR
18HAVE
19IGH
18ITEM
18KINDERGARTEN
19OTO
18LABOR
19EFT
19OW
18MALE
19EDICINE
20TAL
19OON
18NAME
19IGHT
20NE
18ONE
18PRINT
18QUESTION
18RELIGION
20SOURCE
21T
19IGHT
18SCHOOL
19ECRET
20VEN
19IX
19OCIETY
19PECIAL
19TOCK
20UDY
19UITABLE
20N
20PERVISE
18TEN
19HREE
19WO
18WATER
19OOD
09NFORMATION SOURCE
09TALIC LATIN CAPITAL LETTER C
36R
08KATAKANA A
17E
17HA
18E
18I
18O
18U
17I
17KA
18E
18I
18O
18U
17MA
18E
18I
18O
18U
17NA
18E
18I
18O
18U
17O
17RA
18E
18I
18O
18U
17SA
18E
18I
18O
18U
17TA
18E
18I
18O
18U
17U
17WA
18E
18I
18O
17YA
18O
18U
09OREAN CHARACTER CHAMKO
25JUEUI
08LATIN CAPITAL LETTER A
29B
29C
29D
29E
29F
29G
29H
29I
29J
29K
29L
29M
29N
29O
29P
29Q
29R
29S
29T
29U
29V
29W
29X
29Y
29Z
14SMALL LETTER A
27B
27C
27D
27E
27F
27G
27H
27I
27J
27K
27L
27M
27N
27O
27P
27Q
27R
27S
27T
27U
27V
27W
27X
27Y
27Z
09ESS-THAN
08MINUS
09ULTIPLICATION SIGN WITH CIRCUMFLEX ACCENT
08NUMBER EIGHTEEN
20Y ON BLACK SQUARE
16LEVEN
15FIFTEEN
19Y
20 ON BLACK SQUARE
16ORTY
20 EIGHT
21FIVE
22OUR
21NINE
21ON BLACK SQUARE
23E
21SEVEN
22IX
21THREE
22WO
17URTEEN
15NINETEEN
15SEVENTEEN
21Y ON BLACK SQUARE
16IXTEEN
19Y ON BLACK SQUARE
15TEN
18 ON BLACK SQUARE
16HIRTEEN
20Y
21 EIGHT
22FIVE
23OUR
22NINE
22ON BLACK SQUARE
24E
22SEVEN
23IX
22THREE
23WO
16WELVE
18NTY
21 EIGHT
22FIVE
23OUR
22NINE
22ON BLACK SQUARE
24E
22SEVEN
23IX
22THREE
23WO
08OPEN CENTRE EIGHT POINTED STAR
08PARALLEL
09ERPENDICULAR
09LUS
09OSTAL MARK
08REVERSE SOLIDUS
09ING OPERATOR
08SQUARE
08TIMES
09RIANGLE
16 DOWN
08VERTICAL BAR
08WHITE BULLET
14STAR
09Z
08X
08ZERO WITH SLASH
04ULATION FUNCTION
05MFLEX ACCENT
05S TENT
02TYSCAPE
09 AT DUSK
01JK COMPATIBILITY IDEOGRAPH-2F800
321
322
323
324
325
326
327
328
329
32A
32B
32C
32D
32E
32F
3110
321
322
323
324
325
326
327
328
329
32A
32B
32C
32D
32E
32F
3120
321
322
323
324
325
326
327
328
329
32A
32B
32C
32D
32E
32F
3130
321
322
323
324
325
326
327
328
329
32A
32B
32C
32D
32E
32F
3140
321
322
323
324
325
326
327
328
329
32A
32B
32C
32D
32E
32F
3150
321
322
323
324
325
326
327
328
329
32A
32B
32C
32D
32E
32F
3160
321
322
323
324
325
326
327
328
329
32A
32B
32C
32D
32E
32F
3170
321
322
323
324
325
326
327
328
329
32A
32B
32C
32D
32E
32F
3180
321
322
323
324
325
326
327
328
329
32A
32B
32C
32D
32E
32F
3190
321
322
323
324
325
326
327
328
329
32A
32B
32C
32D
32E
32F
31A0
321
322
323
324
325
326
327
328
329
32A
32B
32C
32D
32E
32F
31B0
321
322
323
324
325
326
327
328
329
32A
32B
32C
32D
32E
32F
31C0
321
322
323
324
325
326
327
328
329
32A
32B
32C
32D
32E
32F
31D0
321
322
323
324
325
326
327
328
329
32A
32B
32C
32D
32E
32F
31E0
321
322
323
324
325
326
327
328
329
32A
32B
32C
32D
32E
32F
31F0
321
322
323
324
325
326
327
328
329
32A
32B
32C
32D
32E
32F
30900
321
322
323
324
325
326
327
328
329
32A
32B
32C
32D
32E
32F
3110
321
322
323
324
325
326
327
328
329
32A
32B
32C
32D
32E
32F
3120
321
322
323
324
325
326
327
328
329
32A
32B
32C
32D
32E
32F
3130
321
322
323
324
325
326
327
328
329
32A
32B
32C
32D
32E
32F
3140
321
322
323
324
325
326
327
328
329
32A
32B
32C
32D
32E
32F
3150
321
322
323
324
325
326
327
328
329
32A
32B
32C
32D
32E
32F
3160
321
322
323
324
325
326
327
328
329
32A
32B
32C
32D
32E
32F
3170
321
322
323
324
325
326
327
328
329
32A
32B
32C
32D
32E
32F
3180
321
322
323
324
325
326
327
328
329
32A
32B
32C
32D
32E
32F
3190
321
322
323
324
325
326
327
328
329
32A
32B
32C
32D
32E
32F
31A0
321
322
323
324
325
326
327
328
329
32A
32B
32C
32D
32E
32F
31B0
321
322
323
324
325
326
327
328
329
32A
32B
32C
32D
32E
32F
31C0
321
322
323
324
325
326
327
328
329
32A
32B
32C
32D
32E
32F
31D0
321
322
323
324
325
326
327
328
329
32A
32B
32C
32D
32E
32F
31E0
321
322
323
324
325
326
327
328
329
32A
32B
32C
32D
32E
32F
31F0
321
322
323
324
325
326
327
328
329
32A
32B
32C
32D
32E
32F
30A00
321
322
323
324
325
326
327
328
329
32A
32B
32C
32D
32E
32F
3110
321
322
323
324
325
326
327
328
329
32A
32B
32C
32D
28F900
311
312
313
314
315
316
317
318
319
31A
31B
31C
31D
31E
31F
3010
311
312
313
314
315
316
317
318
319
31A
31B
31C
31D
31E
31F
3020
311
312
313
314
315
316
317
318
319
31A
31B
31C
31D
31E
31F
3030
311
312
313
314
315
316
317
318
319
31A
31B
31C
31D
31E
31F
3040
311
312
313
314
315
316
317
318
319
31A
31B
31C
31D
31E
31F
3050
311
312
313
314
315
316
317
318
319
31A
31B
31C
31D
31E
31F
3060
311
312
313
314
315
316
317
318
319
31A
31B
31C
31D
31E
31F
3070
311
312
313
314
315
316
317
318
319
31A
31B
31C
31D
31E
31F
3080
311
312
313
314
315
316
317
318
319
31A
31B
31C
31D
31E
31F
3090
311
312
313
314
315
316
317
318
319
31A
31B
31C
31D
31E
31F
30A0
311
312
313
314
315
316
317
318
319
31A
31B
31C
31D
31E
31F
30B0
311
312
313
314
315
316
317
318
319
31A
31B
31C
31D
31E
31F
30C0
311
312
313
314
315
316
317
318
319
31A
31B
31C
31D
31E
31F
30D0
311
312
313
314
315
316
317
318
319
31A
31B
31C
31D
31E
31F
30E0
311
312
313
314
315
316
317
318
319
31A
31B
31C
31D
31E
31F
30F0
311
312
313
314
315
316
317
318
319
31A
31B
31C
31D
31E
31F
29A00
311
312
313
314
315
316
317
318
319
31A
31B
31C
31D
31E
31F
3010
311
312
313
314
315
316
317
318
319
31A
31B
31C
31D
31E
31F
3020
311
312
313
314
315
316
317
318
319
31A
31B
31C
31D
31E
31F
3030
311
312
313
314
315
316
317
318
319
31A
31B
31C
31D
31E
31F
3040
311
312
313
314
315
316
317
318
319
31A
31B
31C
31D
31E
31F
3050
311
312
313
314
315
316
317
318
319
31A
31B
31C
31D
31E
31F
3060
311
312
313
314
315
316
317
318
319
31A
31B
31C
31D
3070
311
312
313
314
315
316
317
318
319
31A
31B
31C
31D
31E
31F
3080
311
312
313
314
315
316
317
318
319
31A
31B
31C
31D
31E
31F
3090
311
312
313
314
315
316
317
318
319
31A
31B
31C
31D
31E
31F
30A0
311
312
313
314
315
316
317
318
319
31A
31B
31C
31D
31E
31F
30B0
311
312
313
314
315
316
317
318
319
31A
31B
31C
31D
31E
31F
30C0
311
312
313
314
315
316
317
318
319
31A
31B
31C
31D
31E
31F
30D0
311
312
313
314
315
316
317
318
319
04RADICAL BAMBOO
13LUE
13OLT OF CLOTH
14NE
14X
13RUSH ONE
18TWO
12C-SIMPLIFIED BIRD
25CART
25DRAGON
25EAT
26VEN
25FISH
26LY
26ROG
25GATE
26OLD
25HORSE
25LEAF
26ONG
25SALT
26EE
26HELL
26ILK
26PEECH
25TANNED LEATHER
26OOTH
26URTLE
25WIND
13HOKE
13ITY
14VILIAN
13LIFF
14OTHES
13OW
12DEATH
13IVINATION
13OG
12EAT ONE
16THREE
17WO
13WE
13YE
12FIRE
13OOT
12GHOST
13RASS ONE
18THREE
19WO
12HAND
13EAD
15RT ONE
18TWO
13ORN
12J-SIMPLIFIED DRAGON
25EVEN
25TOOTH
26URTLE
13ADE
12KNIFE ONE
18TWO
12LAME FOUR
17ONE
17THREE
18WO
13ONG ONE
17TWO
12MEAT
14SH
13OON
14RTAR
14THER
14UND ONE
18TWO
12NET FOUR
16ONE
16THREE
17WO
12OLD
12PAW ONE
16TWO
13ERSON
12RAIN
14M
14P
13EPEAT
12SEAL
14COND ONE
19THREE
20WO
13HEEP
13ILK
14MPLIFIED HALF TREE TRUNK
24ORN
23WALK
24HEAT
23YELLOW
13MALL ONE
18TWO
13NAKE
14OUT ONE
18TWO
13PIRIT ONE
19TWO
13UN
12TABLE
13HREAD
13IGER
13URTLE
12WALK ONE
17TWO
14TER ONE
18TWO
13EST ONE
17TWO
04STROKE BXG
11D
11H
12G
12P
13WG
12XWG
12Z
13G
13T
13W
14G
13Z
14P
14Z
15G
11N
11P
12D
12G
12Z
11Q
11S
12G
12P
12T
12W
13G
13Z
12Z
13WG
13Z
11T
12N
11WG
11XG
01LAMSHELL MOBILE PHONE
03PPER BOARD
05ING HANDS SIGN
03SSICAL BUILDING
02EAR SCREEN SYMBOL
02INKING BEER MUGS
09GLASSES
03PBOARD
02OCK FACE EIGHT OCLOCK
16-THIRTY
12LEVEN OCLOCK
17-THIRTY
11FIVE OCLOCK
15-THIRTY
12OUR OCLOCK
15-THIRTY
11NINE OCLOCK
15-THIRTY
11ONE OCLOCK
14-THIRTY
11SEVEN OCLOCK
16-THIRTY
12IX OCLOCK
14-THIRTY
11TEN OCLOCK
14-THIRTY
12HREE OCLOCK
16-THIRTY
12WELVE OCLOCK
17-THIRTY
13O OCLOCK
14-THIRTY
05WISE CLOSED CIRCLE ARROW
11ONTOUR INTEGRAL
10DOWNWARDS AND UPWARDS OPEN CIRCLE ARROWS
10GAPPED CIRCLE ARROW
10INTEGRAL
10OPEN CIRCLE ARROW
10RIGHT AND LEFT SEMICIRCLE ARROWS
15WARDS AND LEFTWARDS OPEN CIRCLE ARROWS
53 WITH CIRCLED ONE OVERLAY
10TOP SEMICIRCLE ARROW
11RIANGLE-HEADED OPEN CIRCLE ARROW
03SE UP
05D BOOK
07INTERSECTION WITH SERIFS
07LOCK WITH KEY
07MAILBOX WITH LOWERED FLAG
20RAISED FLAG
07SUBSET
13 OR EQUAL TO
09PERSET
15 OR EQUAL TO
07UMBRELLA
08NION WITH SERIFS
24 AND SMASH PRODUCT
03UD
05 WITH LIGHTNING
11RAIN
11SNOW
11TORNADO
03WN FACE
01OAT
02CKROACH
04TAIL GLASS
03ONUT
02FFIN
02IN
02LLISION SYMBOL
03ON
05 EQUALS
06SIGN
02MBINING ACUTE ACCENT
22 BELOW
16TONE MARK
15-GRAVE-ACUTE
16MACRON
11LMOST EQUAL TO ABOVE
26BELOW
11NNUITY SYMBOL
12TICLOCKWISE ARROW ABOVE
24RING OVERLAY
11STERISK ABOVE
19BELOW
10BINDU BELOW
11REVE
15 BELOW
15-MACRON
12IDGE ABOVE
17BELOW
10CANDRABINDU
12RON
15 BELOW
11EDILLA
11IRCUMFLEX ACCENT
27 BELOW
11LOCKWISE ARROW ABOVE
20RING OVERLAY
11OMMA ABOVE
21 RIGHT
16BELOW
12NJOINING MACRON
27 BELOW
11YRILLIC DASIA PNEUMATA
19HUNDRED MILLIONS SIGN
27THOUSANDS SIGN
19KAVYKA
19LETTER A
26BE
27IG YUS
26CHE
26DE
27JERV
26EF
27L
27M
27N
27R
27S
28-TE
26FITA
26GHE
26HA
28RD SIGN
26I
27E
27OTIFIED A
35BIG YUS
35E
26KA
26LITTLE YUS
26MONOGRAPH UK
26O
27MEGA
26PE
26SHA
28CHA
27OFT SIGN
26TE
27SE
26U
27KRAINIAN IE
26VE
26YAT
27ERU
27I
27U
26ZE
27HE
19MILLIONS SIGN
19PALATALIZATION
21YEROK
20OKRYTIE
20SILI PNEUMATA
19TEN MILLIONS SIGN
20HOUSAND MILLIONS SIGN
20ITLO
24 LEFT HALF
25RIGHT HALF
19VZMET
10DELETION MARK
12VANAGARI DIGIT EIGHT
27FIVE
28OUR
27NINE
27ONE
27SEVEN
28IX
27THREE
28WO
27ZERO
21LETTER A
28KA
28NA
28PA
28RA
28U
28VI
21SIGN AVAGRAHA
11IAERESIS
19 BELOW
19-RING
11OT ABOVE
19 LEFT
20RIGHT
14BELOW
19 LEFT
13TED ACUTE ACCENT
17GRAVE ACCENT
12UBLE ACUTE ACCENT
17BREVE
22 BELOW
17CIRCUMFLEX ABOVE
17GRAVE ACCENT
17INVERTED BREVE
31 BELOW
17LOW LINE
17MACRON
23 BELOW
17OPEN MARK BELOW
18VERLINE
17PARENTHESES ABOVE
18LUS SIGN ABOVE
27BELOW
17RIGHTWARDS ARROW BELOW
19NG BELOW
17TILDE
22 LEFT HALF
23RIGHT HALF
17VERTICAL LINE ABOVE
31BELOW
26STROKE OVERLAY
16D CIRCUMFLEX ACCENT
12WN TACK BELOW
14WARDS ARROW
10ENCLOSING CIRCLE
26 BACKSLASH
20DIAMOND
20KEYCAP
20SCREEN
21QUARE
20UPWARD POINTING TRIANGLE
11QUALS SIGN BELOW
10FERMATA
11OUR DOTS ABOVE
10GLAGOLITIC LETTER AZU
28BIG YUS
29UKY
28CHRIVI
28DJERVI
29OBRO
28FITA
29RITU
28GLAGOLI
28HERU
28I
29NITIAL IZHE
29OTATED BIG YUS
36SMALL YUS
29ZHE
28KAKO
28LJUDIJE
28MYSLITE
28NASHI
28ONU
28POKOJI
28RITSI
28SHA
30TA
29LOVO
29MALL YUS
28TSI
29VRIDO
28UKU
28VEDE
28YATI
29ERI
31U
30STU
29O
29U
28ZEMLJA
29HIVETE
11RANTHA DIGIT FIVE
25OUR
24ONE
24SIX
24THREE
25WO
24ZERO
18LETTER A
25KA
25NA
25PA
25VI
13PHEME JOINER
13VE ACCENT
22 BELOW
16TONE MARK
15-ACUTE-GRAVE
16MACRON
12EEK DIALYTIKA TONOS
16KORONIS
16MUSICAL PENTASEME
24TETRASEME
25RISEME
16PERISPOMENI
16YPOGEGRAMMENI
10HOMOTHETIC ABOVE
12OK ABOVE
12RN
10INFINITY
12VERTED BREVE
24 BELOW
21IDGE BELOW
19DOUBLE ARCH ABOVE
31BELOW
11S BELOW
10KATAKANA-HIRAGANA SEMI-VOICED SOUND MARK
28VOICED SOUND MARK
12VYKA ABOVE LEFT
23RIGHT
10LATIN LETTER SMALL CAPITAL G
37L
37M
37N
37R
16SMALL LETTER A
30 WITH DIAERESIS
30E
30LPHA
30O
30V
29B
30ETA
29C
30 CEDILLA
29D
29E
30SH
30TH
29F
30LATTENED OPEN A ABOVE
29G
29H
29I
30NSULAR D
37G
37R
37T
29K
29L
30 WITH DOUBLE MIDDLE TILDE
30ONG S
29M
29N
29O
30 WITH DIAERESIS
36LIGHT CENTRALIZATION STROKE
29P
29R
30 BELOW
31ROTUNDA
29S
30CHWA
29T
30URNED W BELOW
29U
30 WITH DIAERESIS
36LIGHT CENTRALIZATION STROKE
29V
29W
30 BELOW
29X
29Z
11EFT ANGLE ABOVE
21BELOW
16RROW ABOVE
21BELOW
20HEAD ABOVE
25BELOW
15HALF RING ABOVE
25BELOW
17RPOON ABOVE
15PARENTHESIS ABOVE LEFT
27BELOW LEFT
15RIGHT ARROW ABOVE
27BELOW
15TACK BELOW
14WARDS ARROW OVERLAY
20HARPOON WITH BARB DOWNWARDS
11IGATURE LEFT HALF
28 BELOW
19RIGHT HALF
29 BELOW
13HT CENTRALIZATION STROKE BELOW
11ONG DOUBLE SOLIDUS OVERLAY
15SOLIDUS OVERLAY
16TROKE OVERLAY
15VERTICAL LINE OVERLAY
12W LINE
10MACRON
16 BELOW
17LEFT HALF
26 BELOW
17RIGHT HALF
27 BELOW
16-ACUTE
17BREVE
17GRAVE
11INUS SIGN BELOW
10NOT TILDE ABOVE
11UMBER SIGN ABOVE
10OGONEK
16 ABOVE
11LD PERMIC LETTER AN
28DOI
28NENOE
28SII
28ZATA
11PEN MARK BELOW
11VERLINE
10PALATALIZED HOOK BELOW
12RENTHESES ABOVE
22BELOW
22OVERLAY
11LUS SIGN ABOVE
20BELOW
10RETROFLEX HOOK BELOW
12VERSE SOLIDUS OVERLAY
17D COMMA ABOVE
11IGHT ARROW ABOVE
22BELOW
21HEAD ABOVE
27ND DOWN ARROWHEAD BELOW
30UP ARROWHEAD BELOW
26BELOW
16HALF RING ABOVE
26BELOW
18RPOON ABOVE
16PARENTHESIS ABOVE RIGHT
28BELOW RIGHT
16TACK BELOW
15WARDS HARPOON WITH BARB DOWNWARDS
12NG ABOVE
15BELOW
15OVERLAY
10SEAGULL BELOW
11HORT SOLIDUS OVERLAY
17TROKE OVERLAY
16VERTICAL LINE OVERLAY
11NAKE BELOW
11QUARE BELOW
18RACKETS ABOVE
11TRONG CENTRALIZATION STROKE BELOW
11USPENSION MARK
10THREE DOTS ABOVE
11ILDE
15 BELOW
16LEFT HALF BELOW
16OVERLAY
16RIGHT HALF BELOW
11RIPLE ACUTE ACCENT
17DOT
17UNDERDOT
11URNED COMMA ABOVE
10UP TACK ABOVE
18BELOW
12WARDS ARROW BELOW
11R ABOVE
11S ABOVE
10VERTICAL LINE ABOVE
24BELOW
19TILDE
10WIDE BRIDGE ABOVE
15INVERTED BRIDGE BELOW
12GGLY LINE BELOW
10X ABOVE
12BELOW
11-X BELOW
10ZIGZAG ABOVE
17BELOW
03ET
03MA
04ERCIAL AT
11MINUS SIGN
03PASS
04LEMENT
04OSITION SYMBOL
04RESSION
02NFETTI BALL
04OUNDED FACE
04USED FACE
03GRUENT WITH DOT ABOVE
03ICAL TAPER
03JUNCTION
03STRUCTION SIGN
13WORKER
03TAINS AS MEMBER
12NORMAL SUBGROUP
27 OR EQUAL TO
09WITH LONG HORIZONTAL STROKE
14OVERBAR
14VERTICAL BAR AT END OF HORIZONTAL STROKE
04INUOUS UNDERLINE SYMBOL
04OUR INTEGRAL
04ROL KNOBS
08SEQUENCE INTRODUCER
03VENIENCE STORE
02OKED RICE
04IE
05NG
02PTIC CAPITAL LETTER AKHMIMIC KHEI
23LFA
22BOHAIRIC KHEI
22CROSSED SHEI
24YPTOGRAMMIC EIE
36GANGIA
36NI
36SHEI
22DALDA
23EI
23IALECT-P ALEF
32HORI
32KAPA
32NI
22EIE
22FEI
23I
22GAMMA
24NGIA
22HATE
23ORI
22IAUDA
22KAPA
23HEI
24I
23SI
22L-SHAPED HA
23AULA
22MI
22NI
22O
23LD COPTIC AIN
33DJA
33ESH
33GANGIA
33HA
35T
34EI
34ORI
33OOU
33SHEI
35IMA
26NUBIAN NGI
34YI
33SHIMA
33WAU
23OU
22PI
23SI
22RO
22SAMPI
23HEI
24IMA
23IMA
23OU
22TAU
23HETHE
22UA
22VIDA
22ZATA
08OMBINING NI ABOVE
17SPIRITUS ASPER
26LENIS
07EPACT DIGIT EIGHT
19FIVE
20OUR
19NINE
19ONE
19SEVEN
20IX
19THREE
20WO
13NUMBER EIGHT HUNDRED
25Y
20FIFTY
22VE HUNDRED
21ORTY
22UR HUNDRED
20NINE HUNDRED
24TY
20ONE HUNDRED
20SEVEN HUNDRED
25TY
21IX HUNDRED
23TY
20TEN
21HIRTY
22REE HUNDRED
21WENTY
22O HUNDRED
13THOUSANDS MARK
07FRACTION ONE HALF
08ULL STOP
07MORPHOLOGICAL DIVIDER
07OLD NUBIAN DIRECT QUESTION MARK
18FULL STOP
18INDIRECT QUESTION MARK
18VERSE DIVIDER
07SMALL LETTER AKHMIMIC KHEI
21LFA
20BOHAIRIC KHEI
20CROSSED SHEI
22YPTOGRAMMIC EIE
34GANGIA
34NI
34SHEI
20DALDA
21EI
21IALECT-P ALEF
30HORI
30KAPA
30NI
20EIE
20FEI
21I
20GAMMA
22NGIA
20HATE
21ORI
20IAUDA
20KAPA
21HEI
22I
21SI
20L-SHAPED HA
21AULA
20MI
20NI
20O
21LD COPTIC AIN
31DJA
31ESH
31GANGIA
31HA
33T
32EI
32ORI
31OOU
31SHEI
33IMA
24NUBIAN NGI
32YI
31SHIMA
31WAU
21OU
20PI
21SI
20RO
20SAMPI
21HEI
22IMA
21IMA
21OU
20TAU
21HETHE
20UA
20VIDA
20ZATA
08YMBOL KAI
15HI RO
14MI RO
14PI RO
14SHIMA SIMA
15TAUROS
14TAU RO
03YLEFT SYMBOL
04RIGHT SIGN
02RAL
03NISH VERSE DIVIDER
03RESPONDS TO
02UCH AND LAMP
03NTERBORE
07SINK
05ING ROD TENS DIGIT EIGHT
24FIVE
25OUR
24NINE
24ONE
24SEVEN
25IX
24THREE
25WO
13UNIT DIGIT EIGHT
24FIVE
25OUR
24NINE
24ONE
24SEVEN
25IX
24THREE
25WO
03PLE WITH HEART
02W
03 FACE
01R
02AB
02EDIT CARD
03SCENT MOON
02ICKET
07 BAT AND BALL
02OCODILE
03ISSANT
03SS MARK
06OF JERUSALEM
09LORRAINE
06PATTY WITH LEFT CROSSBAR
17RIGHT CROSSBAR
07OMMEE
12 WITH HALF-CIRCLE BELOW
05ED FLAGS
08NEGATIVE SQUARED LATIN CAPITAL LETTER P
08SWORDS
05ING LANES
03WN
02UTCH
03ZEIRO SIGN
02YING CAT FACE
07FACE
03STAL BALL
01SI
01UBE ROOT
02CUMBER
02NEIFORM NUMERIC SIGN EIGHT ASH
29DISH
29GESH2
29SHAR2
29U
30 VARIANT FORM
29VARIANT FORM USSU
463
24LAMITE FIFTY
32ORTY
31ONE THIRD
31TWO THIRDS
23FIVE ASH
31 TENU
28BAN2
32 VARIANT FORM
29URU
28DISH
28GESH2
32U
28SHAR2
32U
29IXTHS DISH
28U
29 VARIANT FORM
24OUR ASH
31 TENU
28BAN2
32 VARIANT FORM
29URU
28DISH
28GESH2
32U
28SHAR2
32U
28U
29 VARIANT FORM
28VARIANT FORM LIMMU
46 A
47B
464
23NIGIDAESH
29MIN
25NE ASH
28DISH
28GESH2
28SHAR2
28U
29 VARIANT FORM
28VARIANT FORM ILIMMU
47 A
473
474
23OLD ASSYRIAN ONE QUARTER
40SIXTH
24NE BAN2
28URU
27EIGHTH ASH
28SHE3
27GESH2
31U
27HALF GUR
27QUARTER ASH
35GUR
27SHARU
27THIRD DISH
33VARIANT FORM A
23SEVEN ASH
29DISH
29GESH2
29SHAR2
29U
30 VARIANT FORM
29VARIANT FORM IMIN A
47B
463
24HAR2 TIMES GAL PLUS DISH
44MIN
24IX ASH
30 TENU
27DISH
27GESH2
27SHAR2
27U
28 VARIANT FORM
27VARIANT FORM ASH9
23THREE ASH
32 TENU
29BAN2
30URU
33 VARIANT FORM
29DISH
29GESH2
33U
29SHAR2
34 VARIANT FORM
33U
34 VARIANT FORM
29VARIANT FORM ESH16
4521
24WO ASH
30 TENU
27BAN2
28URU
27ESHE3
27GESH2
31U
27SHAR2
31U
27THIRDS DISH
34VARIANT FORM A
10PUNCTUATION SIGN DIAGONAL COLON
36QUADCOLON
36TRICOLON
27OLD ASSYRIAN WORD DIVIDER
27VERTICAL COLON
10SIGN A
16 TIMES A
23BAD
23GAN2 TENU
23HA
23IGI
23LAGAR GUNU
23MUSH
23SAG
162
16B
17 GUNU
18TIMES ASH2
24DUN3 GUNU
24GAL
26N2 TENU
24HA
24IGI GUNU
25MIN
24LAGAB
24NUN
27 TENU
24SHESH
26U2
24U PLUS U PLUS U
172
18 TIMES A
25BALAG
25GAN2 TENU
25ME PLUS EN
25SHA3
25TAK4
16D
17 TIMES ESH2
16K
17 TIMES ERIN2
24SHITA PLUS GISH
16L
17 TIMES AL
24DIM2
24GISH
24HA
24KAD3
25I
24SHE
24USH
17AN
17EPH
16MAR
19 TIMES KUG
26SHE
16N
17 OVER AN
18PLUS NAGA OPPOSING AN PLUS NAGA
28SQUARED
18THREE TIMES
17SHE
16PIN
16RAD
19 TIMES KUR
17KAB
16SAL2
17H
18 KABA TENU
19OVER ASH OVER ASH
36 CROSSING ASH OVER ASH OVER ASH
28TUG2 OVER TUG2 TUG2 OVER TUG2 PAP
19ZIDA TENU
182
18GAB
15BA
17D
18 TIMES DISH TENU
17G3
17HAR2
21 TIMES AB2
28NI
28ZA
17L
18 OVER BAL
18AG
17R
18A2
16I
17 TIMES A
24GAR
24IGI GUNU
16U
17 CROSSING BU
18OVER BU AB
26TIMES NA2
26UN
17LUG
20 OVER BULUG
17R
182
15DA
17 TIMES TAK4
17G
18 KISIM5 TIMES A PLUS MASH
33MAR
32BALAG
33I
32GA
34 PLUS MASH
33I
34R2
33UD
32HA
32IR
34 PLUS LU
32KAK
32LA
33U
34 PLUS MASH2
34M
32NE
32PAP PLUS PAP
32SI
32TAK4
32U2 PLUS GIR2
40MASH
33SH
19TIMES KUR
183
17M
17R
18A3
194
16I
17B
17M
18 TIMES IGI
25SHE
25U U U
182
19 TIMES UD
17N
18 KASKAL U GUNU DISH
17SH
19 PLUS SHU
16U
17 GUNU
18OVER DU
18SHESHIG
17B
18 TIMES ESH2
25SHE
182
17G
18 TIMES ANSHE
26SH
28 AT LEFT
25DIN
26UN
25ERIN2
25GA
26I
27R2 GUNU
27SH
25HA
26I
25IGI GUNU
25KASKAL
26UR
27SHU2
31 PLUS KASKAL
25LAK-020
27M
28 TIMES KUR
26UH PLUS GISH
25MASH
26ES
26I
25NI
25PI
25SHE
26I GUNU
18UD
17H
17N
183
19 GUNU
24 GUNU
184
17R2
15E
16 OVER E NUN OVER NUN
17TIMES PAP
162
17 TIMES A PLUS HA PLUS DA
24GAR
24KUR
24MI
24PAP
24SAL
25HE
24U
16DIN
16GIR
16L
16N
17 CROSSING EN
18OPPOSING EN
18SQUARED
18TIMES GAN2
28 TENU
24ME
16REN
17IN2
20 X
16SH2
19 CROSSING ESH2
16ZEN
19 SHESHIG TIMES ASH
34HI
34IGI GUNU
34LA
36L
34ME
36S
34SU
20TIMES A
27 PLUS LAL
36 TIMES LAL
27N
26BAD
26DUN3 GUNU
35 GUNU
26GUD
26HA
28 GUNU
26IGI GUNU
26KASKAL
32 SQUARED
27U3
26LA
28L TIMES LAL
27I
27U
26SHE
27U
26U2
27D
15GA
17 GUNU
172
18 OVER GA2
19TIMES A PLUS DA PLUS HA
32HA
32IGI
26B2 TENU PLUS TAB
26N
27 PLUS KAK PLUS A
26SH
282
29 PLUS GAL
25BAD
27HAR2
27R PLUS RA
26UR
28 PLUS RA
25DA
26I
27M GUNU
29TIMES SHE
26UB
27G TIMES IGI GUNU
35KASKAL
25EL
27 PLUS LA
26N
27 TIMES GAN2 TENU
26REN
25GA
27N2 TENU
27R
28 PLUS DI
34NE
26I
274
28 PLUS A
27R2 PLUS SU
25HA PLUS A
33LU PLUS ESH2
27L
28 PLUS LA
26I PLUS LI
26UB2
25IGI GUNU
26SH PLUS HU PLUS ASH
25KAK
27SKAL
26ID
28 PLUS LAL
26U3 PLUS AN
27SHU2 PLUS KASKAL
25LA
27M
28 TIMES KUR
26UH
25ME PLUS EN
26I
26USH
25NE
27 PLUS E2
33GI
26UN
28 OVER NUN
25PA
25SAL
27R
26HE
28 PLUS TUR
27ID
28M
26UM
25TAK4
25U
26D
27 PLUS DU
25ZIZ2
17BA
19 CROSSING GABA
20ROTATED NINETY DEGREES
17D
18 OVER GAD GAR OVER GAR
17L
18 GAD OVER GAD GAR OVER GAR
18AM
17M
17N
182
19 CROSSING GAN2
20OVER GAN2
20TENU
17R
183
17SHAN
16E22
17SHTIN
22 TIMES KUR
29U
16I
17 CROSSING GI
18TIMES E
24U
174
18 CROSSING GI4
19OVER GI4
17DIM
17G
17R2
19 GUNU
183
19 TIMES A PLUS IGI
26GAN2 TENU
26IGI
26LU PLUS IGI
26PA
17SAL
18H
19 CROSSING GISH
20TENU
21IMES BAD
26GISH CROSSING GISH
26TAK4
16U
17 CROSSING GU
172
18 GUNU
19TIMES IGI GUNU
25KAK
28 TIMES IGI GUNU
25NUN
25SAL PLUS TUG2
17D
18 OVER GUD LUGAL
19PLUS GISH TIMES TAK4
19TIMES A PLUS KUR
25KUR
17L
17M
18 TIMES SHE
17R
187
18UN
19SH
15HA
17 GUNU
18TENU
22 GUNU
17L
16I
17 TIMES ASH
27 OVER HI TIMES ASH
272
24BAD
24DISH
24GAD
24KIN
24NUN
24SHE
24U
16U
17B2
19 TIMES AN
26HAL
26KASKAL
26LISH
26UD
17L2
17SH
15I
16 A
16B
16DIM
19 OVER IDIM BUR
30SQUARED
16G
17I
18 DIB
19GUNU
19OVER IGI SHIR OVER SHIR UD OVER UD
19RI
16L
17 TIMES GAN2 TENU
172
16M
17 CROSSING IM
18OPPOSING IM
18SQUARED
18TIMES TAK4
17IN
16N
16R
16SH
15KA
17 TIMES A
25D
26 PLUS KU3
25NSHE
25SH2
273
24BAD
26LAG
26R
25I
25U
24ERIN2
25SH2
24GA
26L
26N2 TENU
26R
27 PLUS SHA3 PLUS A
25I
26R2
26SH
28 CROSSING GISH
29PLUS SAR
25U
26D
26R7
24HI TIMES ASH2
24IGI
25M
24KA
26K
25I
26D
24LI
25U
26M
24ME
26 PLUS DU
32GI
32TE
25I
26 PLUS NUNUZ
24NE
25UN
24PA
25I
24RU
24SA
26R
25HA
26E
26ID
26U
27L
25IG
25UHUR
24TAR
25U
24U
25 U U
252
25D
25MUM TIMES PA
25R
262
25SH
24ZI
172
18 CROSSING KA2
17B
17D2
183
184
185
19 OVER KAD5
17K
18 TIMES IGI GUNU
17L
18 CROSSING KAL
19TIMES BAD
17M2
184
17P ELAMITE
17SKAL
21 LAGAB TIMES U OVER LAGAB TIMES U
22OVER KASKAL LAGAB TIMES U OVER LAGAB TIMES U
16ESH2
16I
17 TIMES BAD
24U
25D
17D
17N
17SAL
18H
18IM5
21 OVER KISIM5
16U
17 OVER HI TIMES ASH2 KU OVER HI TIMES ASH2
173
174
18 VARIANT FORM
177
17L
18 GUNU
17N
17R
18 OPPOSING KUR
17SHU2
16WU318
15LA
17GAB
20 SQUARED
21TIMES A
28 PLUS DA PLUS HA
34GAR
34LAL
28L
28N
28SH ZIDA TENU
27BAD
28I
27DAR
27EN
27GA
29R
28I
28UD
30 PLUS GUD
27HA
29L
28I TIMES NUN
27IGI GUNU
28M
29 PLUS HA
35LU
27KI
29N
28U3
29L
30 PLUS HI PLUS A
27LAGAB
28ISH
28U
29L
27ME
29 PLUS EN
28USH
27NE
27SHE PLUS SUM
29ITA PLUS GISH PLUS ERIN2
43TENU
29U2
31 PLUS SHU2
28UM
27TAG
29K4
28E PLUS A PLUS SU PLUS NA
27U
28 PLUS A
34U PLUS U
282 PLUS ASH
28D
28SH
27ZU OVER ZU
19R
20 GUNU
25 OVER LAGAR GUNU SHE
21TIMES SHE
30 PLUS SUM
17HSHU
17K-003
2021
215
2030
2050
211
2062
2079 OVER LAK-079 GUNU
2080
211 OVER LAK-081
2092
19130
2042
19210
219
2020
215
218
2038
2065
216
19343
217
218
2083
214
2090
19441
219
22 TIMES GU
29IGI
29PAP PLUS LU3
38PAP PLUS LU3
29U2 PLUS BA
2050
217
2070
2083
2090
212
213
215
19550
19608
2017
22 TIMES ASH
29BAD
29DUN3 GUNU GUNU
29KU3
29LA
29TAR
30E
29U2
30D
30RUDA
2036
2048
22 TIMES DUB
29GA
29IGI
32 GUNU
29NI
29PAP PLUS PAP PLUS LU3
29SHESH PLUS KI
29UD
30RUDA
19724
2049
17L
18 TIMES LAL
17M
18 TIMES KUR
28 PLUS RU
16I
17L
17MMU2
17SH
16U
17 TIMES BAD
172
18 CROSSING LU2
19GUNU TIMES ASH
19OPPOSING LU2
19SHESHIG
26 TIMES BAD
20QUARED
19TENU
20IMES AL
25BAD
25DISH
25ESH2
29 PLUS LAL
30TENU
25GAN2 TENU
25HAL
26I TIMES BAD
25IM
25KAD2
283
29 PLUS ASH
26I
25LA PLUS ASH
27GAB
25ME PLUS EN
25NE
26U
25PAP
28 PLUS PAP PLUS LU3
25SHU
26I PLUS ASH
27K2 PLUS BU
25TAK4
26UG2
173
17GAL
20 OPPOSING LUGAL
22VER LUGAL
21SHESHIG
17H
17L
17M
18 OVER LUM
27 GAR OVER GAR
15MA
17 GUNU
18TIMES TAK4
172
17H
17R
17SH
192
16E
17S
18H
16I
17 PLUS ZA7
17N
16U
17 OVER MU
17G
18 GUNU
17NSUB
17RGU2
17SH
19 CROSSING MUSH
20OVER MUSH
29 TIMES A PLUS NA
36GA
36KAK
20TIMES A
26KUR
26ZA
193
20 GUNU
21TIMES A
28 PLUS DI
27DI
27ZA
15NA
172
174
17GA
19 INVERTED
20OPPOSING NAGA
20TIMES SHU TENU
19R
17M
18 NUTILLU
182
16E
17 SHESHIG
18TIMES A
24UD
16I
17 TIMES E
172
17M
18 TIMES GAN2 TENU
27R PLUS GAN2 TENU
17N
189
18DA2
21 TIMES AN
29SH
31 PLUS ASH
28BAL
28DIM GUNU
28GI
30SH"

/-- Names from `CUNEIFORM SIGN NINDA2 TIMES GUD` on. -/
def namesC : String :=
"00CUNEIFORM SIGN NINDA2 TIMES GUD
30L
28HI
28KESH2
28LAK-050
28MASH
29E PLUS GAN2 TENU
28NE
29UN
28PAP PLUS PAP
28SHE
31 PLUS A AN
38SH
40 PLUS ASH
28U
29 PLUS U
292 PLUS ASH
29RUDA
29SH
17SAG
16U
1711
19 OVER NU11 BUR OVER BUR
20ROTATED NINETY DEGREES
20TENU
17N
18 CROSSING NUN
31 LAGAR OVER LAGAR
19LAGAR TIMES GAR
31MASH
31SAL
34 OVER NUN LAGAR TIMES SAL
31USH
19OVER NUN
19TENU
18UZ
20 AB2 TIMES ASHGAB
31BI
31DUG
31GUD
31IGI GUNU
31KAD3
31LA
31NE
31SILA3
31U2
21KISIM5 TIMES BI
36 U
15PA
17D
17N
17P
16ESH2
20 ASTERISK
16I
17 CROSSING PI
18TIMES A
25B
24BI
25U
24E
24I
25B
24U
252
17R2
18IG
20 OPPOSING PIRIG
21TIMES KAL
27UD
27ZA
15RA
17B
16I
16U
15SA
17G
18 GUNU
23 TIMES HA
19NUTILLU
19OVER SAG
19TIMES A
25DU
27B
25EN
25HA
25IGI GUNU
25KAK
26UR
25LUM
25MI
25NUN
25SAL
26HE AT LEFT
27ID
25TAB
27K4
25U2
26B
26M
26R
26SH
17L
18 LAGAB TIMES ASH2
17NGA2
17R
16HA
183
19 TIMES A
26BAD
26GISH
26NE
26SHU2
26TUR
26U
27 PLUS A
186
19 TENU
18B6
18R2
17E
18 HU
19OVER SHE
27 GAD OVER GAD GAR OVER GAR
28TAB OVER TAB GAR OVER GAR
19PLUS HUB2
24NAM2
24SAR
18G9
18N
18SH
202
20LAM
17ID
19 TIMES A
26IM
18M
19 TIMES A
26BAL
27ULUG
26DIN
26GAR
26IGI
29 GUNU
26KUSHU2
26LUL
26MUG
26SAL
18NIG
18R
19 OVER SHIR BUR OVER BUR
20TENU
18TA
17U
18 OVER INVERTED SHU
182
19 PLUS DUG TIMES NI
25E2 TIMES AN
18BUR
16I
17 GUNU
18TIMES TAK4
17G
184
19 OVER SIG4 SHU2
17K2
17LA3
16U
17 OVER SU
17D
182
17HUR
17M
18ASH
17R
189
15TA
17 ASTERISK
18GUNU
18TIMES HI
24MI
17B
18 OVER TAB NI OVER NI DISH OVER DISH
19SQUARED
17G
18 TIMES BI
25GUD
25SHE
27U
25TUG2
25UD
17K4
19 PLUS SAG
17R
16E
17 GUNU
16I
17 TENU
172
17L
17R
18 OVER TIR
27 GAD OVER GAD GAR OVER GAR
19TIMES TAK4
16U
17G2
17K
17M
18 TIMES GAN2 TENU
25THREE DISH
17R
18 OVER TUR ZA OVER ZA
15U
16 GUD
17OVER U PA OVER PA GAR OVER GAR
24SUR OVER SUR
24U REVERSED OVER U REVERSED
17U
18 U
162
16B
16D
17 GUNU
18KUSHU2
18SHESHIG
25 TIMES BAD
18TIMES BAD
24MI
24U PLUS U PLUS U
39 GUNU
17UG
16M
17 TIMES LAGAB
24ME
26 PLUS DA
24SHA3
24U
17BIN
17UM
19 TIMES KASKAL
26PA
16N
17 GUNU
16R
17 CROSSING UR
18SHESHIG
172
18 INVERTED
19TIMES A PLUS HA
32NA
26L
25HA
25NUN
25U2
27 PLUS ASH
33BI
26D
174
17I
183
17U
18 TIMES A
26SHGAB
25BAR
25DARA3
26UN
25GA
27L
27N2 TENU
27R
26U
25HA
25IGI
26M
26SH
25KI
25LAK-668
26U3
27M
25MIN
25PA
25SHE
26IG4
25TU
25U PLUS GUD
26D
26RUDA
18DA
20 TIMES U
16SH
18 TIMES A
25KU
27R
25TAK4
182
18UMX
18X
16TUKI
16Z3
18 TIMES KASKAL
17U
15ZA
17 SQUARED TIMES KUR
18TENU
177
17G
17MX
16E2
16I
17 OVER ZI
173
17B
18 KABA TENU
17G
17Z2
16U
17 OVER ZU PLUS SAR
175
18 TIMES A
25THREE DISH TENU
17BUR
17M
02P ON BLACK SQUARE
04WITH STRAW
03CAKE
03IDO
02RLING STONE
04Y BRACKET EXTENSION
06LOGICAL AND
14OR
08OP
03RENCY EXCHANGE
09SIGN
04Y AND RICE
03VED STEM PARAGRAPH SIGN ORNAMENT
02STARD
04OMS
02T OF MEAT
01YCLONE
02LINDRICITY
02PRIOT SYLLABLE A
17E
17I
17JA
18O
17KA
18E
18I
18O
18U
17LA
18E
18I
18O
18U
17MA
18E
18I
18O
18U
17NA
18E
18I
18O
18U
17O
17PA
18E
18I
18O
18U
17RA
18E
18I
18O
18U
17SA
18E
18I
18O
18U
17TA
18E
18I
18O
18U
17U
17WA
18E
18I
18O
17XA
18E
17ZA
18O
04O-MINOAN SIGN CM001
222
224
225
226
227
228
229
2110
221
222
23B
223
225
227
229
2121
223
224
225
226
227
228
229
2130
223
224
225
226
227
228
229
2140
221
224
226
227
229
2150
221
222
223
224
225
226
228
229
2160
221
222
223
224
226
227
228
229
2170
221
222
223
224
225
23B
226
228
229
2180
221
222
223
224
225
226
227
228
229
2190
221
222
224
225
226
227
228
229
20100
221
222
223
224
225
227
228
229
2110
222
224
20301
222
02RILLIC CAPITAL LETTER A
25 WITH BREVE
31DIAERESIS
25BKHASIAN CHE
37 WITH DESCENDER
34DZE
34HA
25LEUT KA
24BARRED O
32 WITH DIAERESIS
26SHKIR KA
25E
25IG YUS
26NOCULAR O
25LENDED YUS
25ROAD OMEGA
25YELORUSSIAN-UKRAINIAN I
24CCHE
25HE
27 WITH DESCENDER
34IAERESIS
33VERTICAL STROKE
25LOSED LITTLE YUS
25ROSSED O
24DCHE
25E
25JE
27RV
25OUBLE MONOCULAR O
31O
25WE
25ZE
27LO
26HE
26WE
26ZE
27HE
24E
25 WITH DIAERESIS
25F
25L
26 WITH DESCENDER
32HOOK
32MIDDLE HOOK
32TAIL
25M
26 WITH TAIL
25N
26 WITH DESCENDER
32HOOK
32LEFT HOOK
32MIDDLE HOOK
32TAIL
25R
26 WITH TICK
25S
26 WITH DESCENDER
24FITA
24GHE
27 WITH DESCENDER
33MIDDLE HOOK
33STROKE
39 AND HOOK
33UPTURN
25JE
24HA
26 WITH DESCENDER
32HOOK
32STROKE
26RD SIGN
25WE
24I
25 WITH DIAERESIS
31GRAVE
31MACRON
25E
26 WITH BREVE
32GRAVE
25O
26TA
27IFIED A
33BIG YUS
33CLOSED LITTLE YUS
33E
33LITTLE YUS
33YAT
25ZHITSA
31 WITH DOUBLE GRAVE ACCENT
24JE
24KA
26 WITH DESCENDER
32HOOK
32STROKE
32VERTICAL STROKE
25HAKASSIAN CHE
25JE
25OMI DE
30JE
30ZJE
29LJE
29NJE
29SJE
29TJE
29ZJE
26PPA
25SI
24LHA
25ITTLE YUS
25JE
24MONOCULAR O
28GRAPH UK
24NEUTRAL YER
25JE
24O
25 WITH DIAERESIS
25MEGA
29 WITH TITLO
25T
24PE
26 WITH DESCENDER
32MIDDLE HOOK
25SI
24QA
24REVERSED DZE
33TSE
33YU
33ZE
25HA
25OUND OMEGA
24SCHWA
29 WITH DIAERESIS
25EMISOFT SIGN
25HA
26CHA
26HA
28 WITH DESCENDER
26ORT I
31 WITH TAIL
30U
26WE
25OFT DE
29EL
30M
29SIGN
25TRAIGHT U
34 WITH STROKE
24TCHE
25E
26 WITH DESCENDER
32MIDDLE HOOK
25SE
26HE
26SE
26WE
25WE
24U
25 WITH DIAERESIS
32OUBLE ACUTE
31MACRON
25K
26RAINIAN IE
24VE
24WE
24YA
26E
26T
25ERU
28 WITH BACK YER
34DIAERESIS
25I
25N
25U
24ZE
26 WITH DESCENDER
33IAERESIS
26MLYA
25HE
27 WITH BREVE
33DESCENDER
34IAERESIS
26WE
18IGATURE A IE
26EN GHE
26TE TSE
09KAVYKA
09LETTER MULTIOCULAR O
16PALOCHKA
16SMALL CAPITAL EL
09PAYEROK
09SMALL LETTER A
23 WITH BREVE
29DIAERESIS
23BKHASIAN CHE
35 WITH DESCENDER
32DZE
32HA
23LEUT KA
22BARRED O
30 WITH DIAERESIS
24SHKIR KA
23E
23IG YUS
24NOCULAR O
23LENDED YUS
23ROAD OMEGA
23YELORUSSIAN-UKRAINIAN I
22CCHE
23HE
25 WITH DESCENDER
32IAERESIS
31VERTICAL STROKE
23LOSED LITTLE YUS
23ROSSED O
22DCHE
23E
23JE
25RV
23OUBLE MONOCULAR O
29O
23WE
23ZE
25LO
24HE
24WE
24ZE
25HE
22E
23 WITH DIAERESIS
23F
23L
24 WITH DESCENDER
30HOOK
30MIDDLE HOOK
30TAIL
23M
24 WITH TAIL
23N
24 WITH DESCENDER
30HOOK
30LEFT HOOK
30MIDDLE HOOK
30TAIL
23R
24 WITH TICK
23S
24 WITH DESCENDER
22FITA
22GHE
25 WITH DESCENDER
31MIDDLE HOOK
31STROKE
37 AND HOOK
31UPTURN
23JE
22HA
24 WITH DESCENDER
30HOOK
30STROKE
24RD SIGN
23WE
22I
23 WITH DIAERESIS
29GRAVE
29MACRON
23E
24 WITH BREVE
30GRAVE
23O
24TA
25IFIED A
31BIG YUS
31CLOSED LITTLE YUS
31E
31LITTLE YUS
31YAT
23ZHITSA
29 WITH DOUBLE GRAVE ACCENT
22JE
22KA
24 WITH DESCENDER
30HOOK
30STROKE
30VERTICAL STROKE
23HAKASSIAN CHE
23JE
23OMI DE
28JE
28ZJE
27LJE
27NJE
27SJE
27TJE
27ZJE
24PPA
23SI
22LHA
23ITTLE YUS
23JE
23ONG-LEGGED DE
22MONOCULAR O
26GRAPH UK
22NARROW O
23EUTRAL YER
23JE
22O
23 WITH DIAERESIS
23MEGA
27 WITH TITLO
23T
22PALOCHKA
23E
24 WITH DESCENDER
30MIDDLE HOOK
23SI
22QA
22REVERSED DZE
31TSE
31YU
31ZE
23HA
23OUND OMEGA
27ED VE
22SCHWA
27 WITH DIAERESIS
23EMISOFT SIGN
23HA
24CHA
24HA
26 WITH DESCENDER
24ORT I
29 WITH TAIL
28U
24WE
23OFT DE
27EL
28M
27SIGN
23TRAIGHT U
32 WITH STROKE
22TALL HARD SIGN
27TE
27YAT
23CHE
23E
24 WITH DESCENDER
30MIDDLE HOOK
23HREE-LEGGED TE
23SE
24HE
24SE
24WE
23WE
22U
23 WITH DIAERESIS
30OUBLE ACUTE
29MACRON
23K
24RAINIAN IE
23NBLENDED UK
22VE
22WE
23IDE ES
22YA
24E
24T
23ERU
26 WITH BACK YER
32DIAERESIS
23I
23N
23U
22ZE
24 WITH DESCENDER
31IAERESIS
24MLYA
23HE
25 WITH BREVE
31DESCENDER
32IAERESIS
24WE
16IGATURE A IE
24EN GHE
24TE TSE
09THOUSANDS SIGN
00DAGGER
06 KNIFE
07WITH LEFT GUARD
12RIGHT GUARD
02LET SYMBOL
02NCER
03GO
02RK SHADE
06UNGLASSES
02SH SYMBOL
05WITH LEFT UPTURN
04ED LOW LINE
07OVERLINE
07TRIANGLE-HEADED RIGHTWARDS ARROW
02TA LINK ESCAPE
01C1
022
023
024
02S
01EAF PERSON
02CIDUOUS TREE
04MAL EXPONENT SYMBOL
08SEPARATOR KEY SYMBOL
03REASE FONT SIZE SYMBOL
02ER
02GREE CELSIUS
07FAHRENHEIT
07SIGN
02L
03ETE
03IVERY TRUCK
03TA EQUAL TO
02NTISTRY SYMBOL LIGHT DOWN AND HORIZONTAL
42 WITH CIRCLE
48TRIANGLE
48WAVE
23UP AND HORIZONTAL
40 WITH CIRCLE
46TRIANGLE
46WAVE
23VERTICAL AND BOTTOM LEFT
43RIGHT
36TOP LEFT
40RIGHT
36WAVE
32WITH CIRCLE
37TRIANGLE
02PARTMENT STORE
02RELICT HOUSE BUILDING
02SCENDING NODE
03ERET CAPITAL LETTER AY
23BEE
23CHEE
23DEE
23EF
24L
24M
24N
25G
24R
24S
25H
24TH
24W
23GAY
23H
23JEE
23KAY
23LONG A
29H
28E
28I
28O
29O
23OI
24W
23PEE
23SHORT A
30H
29E
29I
29O
30O
23TEE
24HEE
23VEE
23WU
23YEE
23ZEE
24HEE
08SMALL LETTER AY
21BEE
21CHEE
21DEE
21EF
22L
22M
22N
23G
22R
22S
23H
22TH
22W
21GAY
21H
21JEE
21KAY
21LONG A
27H
26E
26I
26O
27O
21OI
22W
21PEE
21SHORT A
28H
27E
27I
27O
28O
21TEE
22HEE
21VEE
21WU
21YEE
21ZEE
22HEE
05T
06 ISLAND
03KTOP COMPUTER
08WINDOW
02VANAGARI ABBREVIATION SIGN
12CUTE ACCENT
11CARET
11DANDA
12IGIT EIGHT
17FIVE
18OUR
17NINE
17ONE
17SEVEN
18IX
17THREE
18WO
17ZERO
12OUBLE DANDA
11GAP FILLER
12RAVE ACCENT
11HEADSTROKE
11JAIN OM
11LETTER A
19A
19I
19U
19W
19Y
18BA
19BA
19HA
18CA
20NDRA A
25E
25O
19HA
18DA
19DA
20DA
21HA
20HA
19HA
18E
18FA
18GA
19GA
19HA
20HA
19LOTTAL STOP
18HA
19EAVY YA
18I
19I
18JA
19HA
19JA
18KA
19HA
20HA
18LA
19LA
20LA
18MA
20RWARI DDA
18NA
19GA
19NA
20NA
19YA
18O
19E
19OE
18PA
19HA
18QA
18RA
19HA
19RA
18SA
19HA
20ORT A
24E
24O
19SA
18TA
19HA
19TA
20HA
18U
19E
19U
20E
18VA
19OCALIC L
27L
26R
27R
18YA
19YA
18ZA
19HA
11OM
11SIGN ANUSVARA
17VAGRAHA
16CANDRABINDU
27 AVAGRAHA
28THREE
29WO
28VIRAMA
16DOUBLE CANDRABINDU VIRAMA
16HIGH SPACING DOT
16INVERTED CANDRABINDU
16NUKTA
16PUSHPIKA
16SIDDHAM
17PACING CANDRABINDU
16VIRAMA
18SARGA
12TRESS SIGN ANUDATTA
23UDATTA
11VOWEL SIGN AA
23I
23U
23W
23Y
22CANDRA E
29LONG E
29O
22E
22I
23I
22O
23E
23OE
22PRISHTHAMATRA E
22SHORT E
28O
22U
23E
23U
24E
22VOCALIC L
31L
30R
31R
03ICE CONTROL FOUR
15ONE
15STRING
15THREE
16WO
01IAERESIS
03METER SIGN
04OND OPERATOR
08SHAPE WITH A DOT INSIDE
08TARGET
08WITH BOTTOM HALF BLACK
13LEFT HALF BLACK
13RIGHT HALF BLACK
13TOP HALF BLACK
02E FACE-1
092
093
094
095
096
03SEL LOCOMOTIVE
02FFERENCE BETWEEN
02GIT EIGHT
11 COMMA
12FULL STOP
06FIVE
10 COMMA
11FULL STOP
07OUR
10 COMMA
11FULL STOP
06NINE
10 COMMA
11FULL STOP
06ONE
09 COMMA
10FULL STOP
06SEVEN
11 COMMA
12FULL STOP
07IX
09 COMMA
10FULL STOP
06THREE
11 COMMA
12FULL STOP
07WO
09 COMMA
10FULL STOP
06ZERO
10 COMMA
11FULL STOP
03RAM FOR EARTH
16LY HEAVEN
20UMAN
11GREATER YANG
20IN
11HEAVENLY EARTH
12UMAN EARTH
11LESSER YANG
19IN
02MENSION ORIGIN
02NGBAT CIRCLED SANS-SERIF DIGIT EIGHT
33FIVE
34OUR
33NINE
33ONE
33SEVEN
34IX
33THREE
34WO
33ZERO
27NUMBER TEN
08NEGATIVE CIRCLED DIGIT EIGHT
31FIVE
32OUR
31NINE
31ONE
31SEVEN
32IX
31THREE
32WO
25NUMBER TEN
25SANS-SERIF DIGIT EIGHT
42FIVE
43OUR
42NINE
42ONE
42SEVEN
43IX
42THREE
43WO
42ZERO
36NUMBER TEN
02RECT CURRENT SYMBOL FORM TWO
07HIT
02SABLED CAR
04PPOINTED BUT RELIEVED FACE
13FACE
03CONTINUOUS UNDERLINE SYMBOL
03GUISED FACE
02TTO MARK
02VES AKURU DIGIT EIGHT
18FIVE
19OUR
18NINE
18ONE
18SEVEN
19IX
18THREE
19WO
18ZERO
13OUBLE DANDA
12END OF TEXT MARK
12GAP FILLER
12INITIAL RA
12LETTER A
20A
19BA
20HA
19CA
20HA
19DA
20DA
21HA
20HA
19E
19GA
20HA
19HA
19I
20I
19JA
19KA
20HA
19LA
20LA
19MA
19NA
20GA
20NA
20YA
19O
19PA
20HA
19RA
19SA
20HA
20SA
19TA
20HA
20TA
19U
20U
19VA
19YA
20YA
19ZA
12MEDIAL RA
19YA
12PREFIXED NASAL SIGN
12SIGN ANUSVARA
17CANDRABINDU
17HALANTA
17NUKTA
12VIRAMA
13OWEL SIGN AA
24I
23E
23I
24I
23O
23U
24U
03IDES
04NG MASK
04SION SIGN
10LASH
09TIMES
03ORCE SYMBOL
02YA LAMP
02ZZY FACE
06SYMBOL
01LE
01NA DOUBLE HELIX
01O NOT LITTER SYMBOL
02CUMENT
08 WITH PICTURE
14TEXT
18 AND PICTURE
02DO
02ES NOT CONTAIN AS MEMBER
20NORMAL SUBGROUP
35 OR EQUAL
09DIVIDE
15 WITH REVERSED NEGATION SLASH
09FORCE
09PRECEDE
16 OR EQUAL
11OVE
09SUCCEED
16 OR EQUAL
02G
03 FACE
03RA ABBREVIATION SIGN
06LETTER A
14A
14I
14U
13BA
14HA
13CA
14HA
13DA
14DA
15HA
14HA
13E
13GA
14HA
13HA
13I
14I
13JA
14HA
13KA
14HA
13LA
13MA
13NA
14GA
14NA
14YA
13O
13PA
14HA
13RA
14RA
13SA
14HA
14SA
13TA
14HA
14TA
15HA
13U
14U
13VA
13YA
06SIGN ANUSVARA
11NUKTA
11VIRAMA
13SARGA
06VOWEL SIGN AA
18I
18U
17E
17I
18I
17O
17U
18U
17VOCALIC R
26R
02LLAR SIGN
03PHIN
02MINO TILE HORIZONTAL BACK
22-00-00
271
272
273
274
275
276
241-00
271
272
273
274
275
276
242-00
271
272
273
274
275
276
243-00
271
272
273
274
275
276
244-00
271
272
273
274
275
276
245-00
271
272
273
274
275
276
246-00
271
272
273
274
275
276
12VERTICAL BACK
20-00-00
251
252
253
254
255
256
221-00
251
252
253
254
255
256
222-00
251
252
253
254
255
256
223-00
251
252
253
254
255
256
224-00
251
252
253
254
255
256
225-00
251
252
253
254
255
256
226-00
251
252
253
254
255
256
02NG SIGN
02OR
02T ABOVE
04MINUS
04OPERATOR
04PLUS
03TED CIRCLE
08ROSS
07FENCE
07LINE FACE
07OBELOS
07RIGHT-POINTING ANGLE
07SOLIDUS
08QUARE
07TRANSPOSITION MARKER
02UBLE ACUTE ACCENT
07CIRCLED DIGIT EIGHT
21FIVE
22OUR
21NINE
21ONE
21SEVEN
22IX
21THREE
22WO
15NUMBER TEN
08OLON EQUAL
08URLY LOOP
07DAGGER
08OWN TACK
07EXCLAMATION MARK
07HIGH-REVERSED-9 QUOTATION MARK
08YPHEN
07INTEGRAL
11RSECTION
07LEFT ARC GREATER-THAN BRACKET
08OGICAL AND
15OR
09W LINE
10-9 QUOTATION MARK
11REVERSED-9 QUOTATION MARK
07NESTED GREATER-THAN
14LESS-THAN
23 WITH UNDERBAR
07OBLIQUE HYPHEN
07PLUS
08RECEDES
09IME
12 QUOTATION MARK
07QUESTION MARK
07RIGHT ARC LESS-THAN BRACKET
07SOLIDUS OPERATOR
08QUARE INTERSECTION
14UNION
08TACKED COMMA
09ROKE NOT SIGN
08UBSET
09CCEEDS
09PERSET
09SPENSION MARK
07UNION
08P TACK
07VERTICAL BAR
19 DOUBLE LEFT TURNSTILE
27RIGHT TURNSTILE
20LEFT TURNSTILE
16LINE
07WAVY OVERLINE
06-ENDED MULTIMAP
07LINE EQUAL TO OR GREATER-THAN
24LESS-THAN
12SLANTED EQUAL TO OR GREATER-THAN
32LESS-THAN
20GREATER-THAN OR EQUAL TO
20LESS-THAN OR EQUAL TO
07STRUCK CAPITAL C
22GAMMA
22H
22N
22P
23I
22Q
22R
22Z
14ITALIC CAPITAL D
21SMALL D
27E
27I
27J
14N-ARY SUMMATION
14SMALL GAMMA
20PI
06D FEMALE SIGN
08MALE SIGN
08SYMBOL
03GHNUT
02VE OF PEACE
02WN ARROWHEAD
05FISH TAIL
05RIGHT DIAGONAL ELLIPSIS
05TACK
09 WITH CIRCLE BELOW
04-POINTING RED TRIANGLE
14SMALL RED TRIANGLE
14TRIANGLE WITH LEFT HALF BLACK
28RIGHT HALF BLACK
04WARD FACING HOOK
20 WITH DOT
16NOTCHED HOOK
28 WITH DOT
08S ANCORA
11RROW
15 AND RIGHT ONE EIGHTH BLOCK
16FROM BAR
16LEFTWARDS OF UPWARDS ARROW
16TO BAR
16WITH CORNER LEFTWARDS
21DOUBLE STROKE
21EQUILATERAL ARROWHEAD
21HORIZONTAL STROKE
21LARGE TRIANGLE ARROWHEAD
21MEDIUM TRIANGLE ARROWHEAD
21NOTCHED TAIL
21SMALL EQUILATERAL ARROWHEAD
27TRIANGLE ARROWHEAD
21TIP LEFTWARDS
25RIGHTWARDS
10BLACK ARROW
16CIRCLED WHITE ARROW
10COMPRESSED ARROW
10DASHED ARROW
11OUBLE ARROW
10FINGER-POST ARROW
10HARPOON WITH BARB LEFT BESIDE DOWNWARDS HARPOON WITH BARB RIGHT
40UPWARDS HARPOON WITH BARB RIGHT
33FROM BAR
33TO BAR
32WARDS
28RIGHT FROM BAR
34TO BAR
33WARDS
11EAVY ARROW
16COMPRESSED ARROW
10PAIRED ARROWS
10QUADRUPLE ARROW
10ROCKET
10SANS-SERIF ARROW
11QUARED ARROW
10TRIANGLE ARROWHEAD
18-HEADED ARROW
31 LEFTWARDS OF UPWARDS TRIANGLE-HEADED ARROW
32TO BAR
32WITH BOLD SHAFT
37DOUBLE HORIZONTAL STROKE
37HEAVY SHAFT
37LONG TIP LEFTWARDS
46RIGHTWARDS
37MEDIUM SHAFT
37NARROW SHAFT
37VERY HEAVY SHAFT
26DASHED ARROW
26PAIRED ARROWS
26ZIGZAG ARROW
13PLE ARROW
11WO HEADED ARROW
13-HEADED ARROW WITH TRIANGLE ARROWHEADS
10WHITE ARROW
21 WITHIN TRIANGLE ARROWHEAD
10ZIGZAG ARROW
01RACHMA SIGN
03FTING POINT RIGHTWARDS ARROW
03GON
06 FACE
02ESS
02IVE SLOW SIGN
02OMEDARY CAMEL
03OLING FACE
03P OF BLOOD
04LET
02UM WITH DRUMSTICKS
01UCK
02MPLING
02PLOYAN AFFIX ATTACHED E HOOK
24I HOOK
24LEFT-TO-RIGHT SECANT
24SECANT
24TAIL
26NGENT
31 HOOK
15HIGH ACUTE
20CIRCLE
20DOT
20GRAVE
20LINE
21ONG GRAVE
20TIGHT ACUTE
20VERTICAL
28 SECANT
20WAVE
15LEFT HORIZONTAL SECANT
16OW ACUTE
20RROW
19CIRCLE
19DOT
19GRAVE
19LINE
20ONG GRAVE
19TIGHT ACUTE
19VERTICAL
27 SECANT
19WAVE
15MID HORIZONTAL SECANT
19VERTICAL SECANT
15RIGHT HORIZONTAL SECANT
09DOUBLE MARK
09LETTER A
17OU
16B
16D
17 S
17H
16E
17E
17U
16F
17 N
16G
17 R S
16H
17L
16I
17E
16J
17 M
19 S
18N
19 S
18S
19 WITH DOT
18WITH DOT
26S INSIDE AND ABOVE
16K
17 M
18R S
17K
16L
17H
17ONG I
21U
16M
17 N
19 S
18S
18WITH DOT
16N
17 M
19 S
18S
18WITH DOT
17ASAL A
22I
22O
22U
16O
17A
17OH
17U
17W
16P
17 N
17ERNIN AM
24N
16R
17 S
17H
17OMANIAN I
25U
16S
17 J
19 S
18K
19 R
18M
18N
18P
19 R
18S
18T
19 R
18WITH DOT
26 BELOW
17HORT I
17LOAN AN
22DH
22EE
23H
23N
22J
22ON
23W
22U
16T
17 R S
18S
17H
16U
17 N
17H
17I
16V
17OCALIC M
16W
17 R
17A
17EI
17H
17I
17O
18W
16X
17W
16YE
09PUNCTUATION CHINOOK FULL STOP
09SIGN O WITH CROSS
09THICK LETTER SELECTOR
01VD
00E-MAIL SYMBOL
01AGLE
02R
03 OF MAIZE
07RICE
04WITH HEARING AID
03TH
05 GLOBE AMERICAS
13SIA-AUSTRALIA
12EUROPE-AFRICA
07ROUND
02ST SYRIAC CROSS
01DITORIAL CORONIS
01GG
02YPTIAN HIEROGLYPH A001
232
233
234
235
24A
236
24A
24B
237
238
239
2210
231
232
233
234
24A
235
236
237
24A
238
239
2220
231
232
233
234
235
236
237
238
239
2230
231
232
24A
233
234
235
236
237
238
239
2240
24A
231
232
24A
233
24A
234
235
24A
236
237
238
239
2250
231
232
233
234
235
236
237
238
239
2260
231
232
233
234
235
236
237
238
239
2270
21A001
242
243
244
245
246
247
25A
25B
248
249
2310
241
242
243
244
245
246
247
248
249
2320
241
242
243
244
245
246
247
248
249
2330
241
242
20B001
232
233
234
235
24A
236
237
238
239
21EGIN SEGMENT
20C001
232
24A
24B
24C
233
234
235
236
237
238
239
2210
24A
231
232
233
234
235
236
237
238
239
2220
231
232
233
234
20D001
232
233
234
235
236
237
238
24A
239
2210
231
232
233
234
235
236
237
238
239
2220
231
232
233
234
235
236
237
24A
238
239
2230
231
24A
232
233
234
24A
235
236
237
238
239
2240
231
232
233
234
235
236
24A
237
238
24A
239
2250
24A
24B
24C
24D
24E
24F
24G
24H
24I
231
232
24A
233
234
24A
235
236
237
238
239
2260
231
232
233
234
235
236
237
24A
24B
24C
24D
24E
24F
24G
24H
20E001
232
233
234
235
236
237
238
24A
239
24A
2210
231
232
233
234
235
236
24A
237
24A
238
239
2220
24A
231
232
233
234
235
236
237
238
24A
239
2230
231
232
233
234
24A
236
237
238
21ND SEGMENT
20F001
24A
232
233
234
235
236
237
238
239
2210
231
232
233
24A
234
235
236
237
238
239
2220
231
24A
232
233
234
235
236
237
238
239
2230
231
24A
232
233
234
235
236
237
24A
238
24A
239
2240
231
232
233
234
235
24A
236
24A
237
24A
238
239
2250
231
24A
24B
24C
232
233
20G001
232
233
234
235
236
24A
237
24A
24B
238
239
2210
231
24A
232
233
234
235
236
237
238
239
2220
24A
231
232
233
234
235
236
24A
237
238
239
2230
231
232
233
234
235
236
24A
237
24A
238
239
2240
231
232
233
24A
234
235
24A
236
237
238
239
2250
231
232
233
234
20H001
232
233
234
235
236
24A
237
238
21ORIZONTAL JOINER
20I001
232
233
234
235
24A
236
237
238
239
24A
2210
24A
231
24A
232
233
234
235
21NSERT AT BOTTOM END
37START
30TOP END
34START
20K001
232
233
234
235
236
237
238
20L001
232
24A
233
234
235
236
24A
237
238
20M001
24A
24B
232
233
24A
234
235
236
237
238
239
2210
24A
231
232
24A
24B
24C
24D
24E
24F
24G
24H
233
234
235
24A
236
24A
237
24A
238
239
2220
231
232
24A
233
234
24A
235
236
237
238
24A
239
2230
231
24A
232
233
24A
24B
234
235
236
237
238
239
2240
24A
231
232
233
234
20N001
232
233
234
235
236
237
238
239
2210
231
232
233
234
235
236
237
238
24A
24B
239
2220
231
232
233
234
235
24A
236
237
238
239
2230
231
232
233
24A
234
24A
235
24A
236
237
24A
238
239
2240
231
232
21L001
242
243
244
245
25A
246
247
248
249
2310
241
242
243
244
245
246
247
25A
248
249
2320
21U001
242
243
244
245
246
247
248
249
2310
25A
241
25A
242
243
244
245
246
247
248
25A
249
2320
241
242
25A
20O001
24A
232
233
234
235
24A
236
24A
24B
24C
24D
24E
24F
237
238
239
2210
24A
24B
24C
231
232
233
234
235
236
237
238
239
24A
2220
24A
231
232
233
234
24A
235
24A
236
237
238
239
24A
2230
24A
231
232
233
24A
234
235
236
24A
24B
24C
24D
237
238
239
2240
231
232
233
234
235
236
237
238
239
2250
24A
24B
231
21VERLAY MIDDLE
20P001
24A
232
233
24A
234
235
236
237
238
239
2210
231
20Q001
232
233
234
235
236
237
20R001
232
24A
233
24A
24B
234
235
236
237
238
239
2210
24A
231
232
233
234
235
236
24A
237
238
239
2220
231
232
233
234
235
236
237
238
239
20S001
232
24A
233
234
235
236
24A
237
238
239
2210
231
232
233
234
24A
24B
235
236
237
24A
238
239
2220
231
232
233
234
235
236
24A
24B
237
238
239
2230
231
232
233
234
235
24A
236
237
238
239
2240
231
232
233
234
235
236
20T001
232
233
24A
234
235
236
237
24A
238
24A
239
24A
2210
231
24A
232
233
234
235
236
24A
237
238
239
2220
231
232
233
234
235
236
237
238
239
2230
231
232
24A
233
24A
234
235
236
20U001
232
233
234
235
236
24A
24B
237
238
239
2210
231
232
233
234
235
236
237
238
239
2220
231
232
233
24A
234
235
236
237
238
239
24A
2230
231
232
24A
233
234
235
236
237
238
239
2240
231
232
20V001
24A
24B
24C
24D
24E
24F
24G
24H
24I
232
24A
233
234
235
236
237
24A
24B
238
239
2210
231
24A
24B
24C
232
24A
24B
233
234
235
236
237
238
239
2220
24A
24B
24C
24D
24E
24F
24G
24H
24I
24J
24K
24L
231
232
233
24A
234
235
236
237
238
24A
239
24A
2230
24A
231
24A
232
233
24A
234
235
236
237
24A
238
239
2240
24A
21ERTICAL JOINER
20W001
232
233
24A
234
235
236
237
238
239
24A
2210
24A
231
232
233
234
24A
235
236
237
24A
238
24A
239
2220
231
232
233
234
24A
235
20X001
232
233
234
24A
24B
235
236
24A
237
238
24A
20Y001
24A
232
233
234
235
236
237
238
20Z001
232
24A
24B
24C
24D
233
24A
24B
234
24A
235
24A
236
237
238
239
2210
231
232
233
234
235
24A
24B
24C
24D
24E
24F
24G
24H
24I
236
24A
24B
24C
24D
24E
24F
24G
24H
01IGHT PETALLED OUTLINED BLACK FLORETTE
07OINTED BLACK STAR
14PINWHEEL STAR
14RECTILINEAR BLACK STAR
06SPOKED ASTERISK
06TEARDROP-SPOKED PROPELLER ASTERISK
05H NOTE
01JECT SYMBOL
01LBASAN LETTER A
15BE
15CE
16HE
15DE
16HE
15E
16I
15FE
15GE
16HAMMA
17E
16JE
15HE
15I
15JE
15KE
16HE
15LE
16LE
15ME
15NA
16DE
16E
16JE
15O
15PE
15QE
15RE
16RE
15SE
16HE
15TE
16HE
15U
15VE
15XE
15Y
15ZE
16HE
02ECTRIC ARROW
09LIGHT BULB
09PLUG
09TORCH
08AL INTERSECTION
03MENT OF
10 OPENING DOWNWARDS
19UPWARDS
11WITH DOT ABOVE
16LONG HORIZONTAL STROKE
16OVERBAR
16TWO HORIZONTAL STROKES
16UNDERBAR
16VERTICAL BAR AT END OF HORIZONTAL STROKE
03PHANT
03VATOR
02F
02YMAIC LETTER ALEPH
16YIN
15BETH
15DALETH
15GIMEL
15HE
17TH
15KAPH
15LAMEDH
15MEM
15NUN
15PE
15QOPH
15RESH
15SADHE
17MEKH
16HIN
15TAW
16ETH
15WAW
15YODH
15ZAYIN
09IGATURE ZAYIN-YODH
01M DASH
03QUAD
03SPACE
02OJI COMPONENT BALD
16CURLY HAIR
16RED HAIR
16WHITE HAIR
06MODIFIER FITZPATRICK TYPE-1-2
323
324
325
326
02PHASIS SYMBOL
03TY DOCUMENT
06NEST
07OTE
10 PAD
13GE
06PAGE
10S
06SET
09 WITH LEFT ARROW ABOVE
15OVERBAR
15RIGHT ARROW ABOVE
15SMALL CIRCLE ABOVE
01N DASH
03QUAD
03SPACE
02D OF GUARDED AREA
07LINE
07MEDIUM
07PROOF
10TECTED AREA
07SELECTED AREA
07TEXT
08RANSMISSION
19 BLOCK
04WITH LEFTWARDS ARROW ABOVE
02Q
03UIRY
02TER SYMBOL
02VELOPE
08 WITH DOWNWARDS ARROW ABOVE
14LIGHTNING
01OL
02M
02T
01PA
01QUAL AND PARALLEL TO
06TO BY DEFINITION
09OR GREATER-THAN
12LESS-THAN
12PRECEDES
12SUCCEEDS
05S COLON
07SIGN
11 ABOVE LEFTWARDS ARROW
18PLUS SIGN
18RIGHTWARDS ARROW
18TILDE OPERATOR
13ND SLANTED PARALLEL
32 WITH TILDE ABOVE
12WITH BUMPY ABOVE
17DOT BELOW
17INFINITY BELOW
17TWO DOTS ABOVE AND TWO DOTS BELOW
07WITH ASTERISK
03IANGULAR TO
04VALENT TO
11WITH FOUR DOTS ABOVE
01RASE TO THE LEFT
13RIGHT
02IS FORM ONE
10TWO
02ROR-BARRED BLACK CIRCLE
19DIAMOND
19SQUARE
13WHITE CIRCLE
19DIAMOND
19SQUARE
01SA
02C
03APE
02TIMATED SYMBOL
08S
01TB
02HIOPIC COLON
11MBINING GEMINATION AND VOWEL LENGTH MARK
30MARK
19VOWEL LENGTH MARK
12MA
09DIGIT EIGHT
15FIVE
16OUR
15NINE
15ONE
15SEVEN
16IX
15THREE
16WO
09FULL STOP
09NUMBER EIGHTY
16FIFTY
17ORTY
16HUNDRED
16NINETY
16SEVENTY
17IXTY
16TEN
19 THOUSAND
17HIRTY
17WENTY
09PARAGRAPH SEPARATOR
10REFACE COLON
09QUESTION MARK
09SECTION MARK
11MICOLON
10YLLABLE BA
20A
19BA
21A
20E
21E
20I
20O
20U
19E
20E
19I
19O
20A
19U
19WA
20E
21E
20I
18CA
20A
19CA
21A
20E
21E
20HA
22A
21E
22E
21HA
23A
22E
23E
22I
22O
22U
21I
21O
21U
20I
20O
20U
19E
20E
19HA
21A
20E
21E
20I
20O
21A
20U
20WA
19I
19O
20A
19U
19WA
18DA
20A
19DA
21A
20E
21E
20HAA
21E
22E
21I
21O
21U
20I
20O
21A
20U
20WA
19E
20E
19I
19O
20A
19U
19WA
19ZAA
20E
21E
20I
20O
20U
18FA
20A
19E
20E
19I
19O
19U
19WA
20E
21E
20I
19YA
18GA
20A
19E
20E
19GA
21A
20E
21E
20I
20O
20U
20WA
22A
21E
22E
21I
19I
19LOTTAL A
27A
26E
27E
26I
26O
27A
26U
26WA
19O
20A
19U
20RAGE BWEE
27I
25FWEE
27I
25GWE
28E
27I
25HHWA
25KWE
28E
27I
25MWEE
27I
25PWEE
27I
25QWE
28E
27I
19WA
21A
20E
21E
20I
19YA
21A
20E
21E
20I
20O
20U
18HA
20A
19E
20E
19HA
21A
20E
21E
20I
20O
20U
20WA
21E
22E
21I
20YA
22A
21E
22E
21I
21O
21U
19I
19O
20A
19U
18JA
20A
19E
20E
19I
19O
20A
19U
19WA
18KA
20A
19E
20E
19I
19O
20A
19U
19WA
21A
20E
21E
20I
19XA
21A
20E
21E
20I
20O
20U
20WA
22A
21E
22E
21I
19YA
21A
20E
21E
20I
20O
20U
18LA
20A
19E
20E
19I
19O
20A
19U
19WA
18MA
20A
19E
20E
19I
19O
20A
19U
19WA
20E
21E
20I
19YA
18NA
20A
19E
20E
19I
19O
20A
19U
19WA
19YA
21A
20E
21E
20I
20O
21A
20U
20WA
18PA
20A
19E
20E
19HA
21A
21RYNGEAL A
30A
29E
30E
29I
29O
29U
20E
21E
20I
20O
21A
20U
20WA
19I
19O
20A
19U
19WA
20E
21E
20I
18QA
20A
19E
20E
19HA
21A
20E
21E
20I
20O
20U
20WA
22A
21E
22E
21I
19I
19O
20A
19U
19WA
21A
20E
21E
20I
19YA
21A
20E
21E
20I
20O
20U
18RA
20A
19E
20E
19I
19O
20A
19U
19WA
19YA
18SA
20A
19E
20BATBEIT BWA
28FWA
28MWA
28PWA
20E
19HA
21A
20E
21E
20I
20O
21A
20U
20WA
19I
19O
20A
19SA
21A
20E
21E
20I
20O
20U
19U
19WA
19ZA
21A
20E
21E
20I
20O
20U
20WA
18TA
20A
19E
20E
19HA
21A
20E
21E
20I
20O
21A
20U
20WA
19I
19O
20A
19SA
21A
20E
21E
20I
20O
20U
20WA
19THAA
21E
22E
21I
21O
21U
19U
19WA
19ZA
21A
20E
21E
20I
20O
21A
20U
18VA
20A
19E
20E
19I
19O
19U
19WA
18WA
20A
19E
20E
19I
19O
20A
19U
18XA
20A
19E
20E
19I
19O
20A
19U
19WA
21A
20E
21E
20I
19YA
21A
20E
21E
20I
20O
20U
18YA
20A
19E
20E
19I
19O
20A
19U
18ZA
20A
19E
20E
19HA
21A
20E
21E
20I
20O
20U
20WA
19I
19O
20A
19U
19WA
19ZA
21A
20E
21E
20I
20O
20U
09TONAL MARK CHIRET
20DERET
25-HIDET
21IFAT
20HIDET
20KENAT
21URT
20RIKRIK
20SHORT RIKRIK
20YIZET
09WORDSPACE
02X
01ULER CONSTANT
02RO SIGN
04-CURRENCY SIGN
04PEAN CASTLE
09POST OFFICE
01VERGREEN TREE
01XCESS
03LAMATION MARK
12QUESTION MARK
02PRESSIONLESS FACE
02TENDED ARABIC-INDIC DIGIT EIGHT
28FIVE
29OUR
28NINE
28ONE
28SEVEN
29IX
28THREE
29WO
28ZERO
03RATERRESTRIAL ALIEN
04EMELY HEAVY FIVE SPOKED ASTERISK
16GREEK CROSS
16SALTIRE
17IX SPOKED ASTERISK
16WHITE CIRCLE
22SQUARE
01YE
03GLASSES
03S
00FACE HOLDING BACK TEARS
05MASSAGE
05PALM
05SAVOURING DELICIOUS FOOD
06CREAMING IN FEAR
05THROWING A KISS
05WITH COLD SWEAT
12WBOY HAT
10DIAGONAL MOUTH
10FINGER COVERING CLOSED LIPS
10HEAD-BANDAGE
10LOOK OF TRIUMPH
10MEDICAL MASK
11ONOCLE
10NO GOOD GESTURE
10OK GESTURE
11NE EYEBROW RAISED
11PEN EYES AND HAND OVER MOUTH
15MOUTH
20 AND COLD SWEAT
21VOMITING
10PARTY HORN AND PARTY HAT
11EEKING EYE
11LEADING EYES
10ROLLING EYES
10STUCK-OUT TONGUE
26 AND TIGHTLY-CLOSED EYES
31WINKING EYE
10TEARS OF JOY
11HERMOMETER
10UNEVEN EYES AND WAVY MOUTH
09OUT MOUTH
03SIMILE SIGN
03TORY
02IRY
02LAFEL
03LEN LEAF
04ING DIAGONAL CROSSING NORTH EAST ARROW
26RISING DIAGONAL
17IN WHITE CIRCLE IN BLACK SQUARE
02MILY
02RSI SYMBOL
02THER CHRISTMAS
02X ICON
04MACHINE
01EARFUL FACE
03THER
02MALE SIGN
03ININE ORDINAL INDICATOR
02NCER
02RRIS WHEEL
04Y
01F
01IELD HOCKEY STICK AND BALL
02GURE DASH
07SPACE
02LE CABINET
05FOLDER
05SEPARATOR
03M FRAMES
05PROJECTOR
02NITE PART INTEGRAL
02RE
04 ENGINE
06XTINGUISHER
04CRACKER
04WORK SPARKLER
08S
03ST PLACE MEDAL
06QUARTER MOON
18 SYMBOL
19WITH FACE
06STRONG ISOLATE
02SH
04 CAKE WITH SWIRL DESIGN
04EYE
04ING POLE AND FISH
03TED HAND SIGN
02VE DOT MARK
09PUNCTUATION
01LAG IN HOLE
03MINGO
03T SHOE
04BREAD
04NESS
02EUR-DE-LIS
03XED BICEPS
02OPPY DISK
03RAL HEART
03WER
06 PLAYING CARDS
08UNCTUATION MARK
02USHED FACE
02Y
03ING DISC
07ENVELOPE
07SAUCER
01OG
03GY
02LDER
02NDUE
02OT
04PRINTS
02R ALL
03CES
03K AND KNIFE
14 WITH PLATE
04ED PARAGRAPHOS
04ING
03M FEED
03TUNE COOKIE
02UNTAIN
03R BALLOON-SPOKED ASTERISK
05CLUB-SPOKED ASTERISK
06ORNER ARROWS CIRCLING ANTICLOCKWISE
05DOT MARK
09PUNCTUATION
05LEAF CLOVER
05POINTED BLACK STAR
05TEARDROP-SPOKED ASTERISK
04-PER-EM SPACE
04TH ROOT
02X FACE
01RACTION NUMERATOR ONE
09SLASH
03ME WITH AN X
11PICTURE
11TILES
02EEZING FACE
03NCH FRANC SIGN
09IES
02IED SHRIMP
02OG FACE
03NT-FACING BABY CHICK
06TILTED SHADOWED WHITE RIGHTWARDS ARROW
03WN
05ING FACE WITH OPEN MOUTH
01S
02I
01UEL PUMP
02LL BLOCK
05MOON SYMBOL
10WITH FACE
05OUTER JOIN
05STOP
04WIDTH AMPERSAND
11POSTROPHE
11STERISK
10BROKEN BAR
10CENT SIGN
11IRCUMFLEX ACCENT
11OLON
12MMA
14ERCIAL AT
10DIGIT EIGHT
16FIVE
17OUR
16NINE
16ONE
16SEVEN
17IX
16THREE
17WO
16ZERO
11OLLAR SIGN
10EQUALS SIGN
11XCLAMATION MARK
10FULL STOP
10GRAVE ACCENT
12EATER-THAN SIGN
10HYPHEN-MINUS
10LATIN CAPITAL LETTER A
31B
31C
31D
31E
31F
31G
31H
31I
31J
31K
31L
31M
31N
31O
31P
31Q
31R
31S
31T
31U
31V
31W
31X
31Y
31Z
16SMALL LETTER A
29B
29C
29D
29E
29F
29G
29H
29I
29J
29K
29L
29M
29N
29O
29P
29Q
29R
29S
29T
29U
29V
29W
29X
29Y
29Z
11EFT CURLY BRACKET
15PARENTHESIS
15SQUARE BRACKET
15WHITE PARENTHESIS
12SS-THAN SIGN
11OW LINE
10MACRON
10NOT SIGN
11UMBER SIGN
10PERCENT SIGN
11LUS SIGN
11OUND SIGN
10QUESTION MARK
12OTATION MARK
10REVERSE SOLIDUS
11IGHT CURLY BRACKET
16PARENTHESIS
16SQUARE BRACKET
16WHITE PARENTHESIS
10SEMICOLON
11OLIDUS
10TILDE
10VERTICAL LINE
10WON SIGN
10YEN SIGN
02NCTION APPLICATION
03ERAL URN
02SE
01VS1
032
033
034
00GAME DIE
02RLIC
01EAR
04 WITH HANDLES
09OUT HUB
02M STONE
03INI
02NIE
02OMETRIC PROPORTION
09ALLY EQUAL TO
17IVALENT TO
03RGIAN CAPITAL LETTER AEN
25N
24BAN
24CAN
25HAR
26IN
25IL
24DON
24EN
24GAN
25HAN
24HAE
26R
25E
25IE
25OE
24IN
24JHAN
25IL
24KAN
25HAR
24LAS
24MAN
24NAR
24ON
24PAR
25HAR
24QAR
24RAE
24SAN
25HIN
24TAN
26R
24UN
24VIN
24WE
24XAN
24YN
24ZEN
25HAR
09LETTER AEN
17IN
17N
16BAN
16CAN
17HAR
18IN
17IL
16DON
16ELIFI
17N
16FI
16GAN
17HAN
16HAE
18R
19D SIGN
17E
17IE
17OE
16IN
16JHAN
17IL
16KAN
17HAR
16LABIAL SIGN
18S
16MAN
16NAR
16ON
16PAR
17HAR
16QAR
16RAE
16SAN
17HIN
16TAN
18R
17URNED GAN
16UN
16VIN
16WE
16XAN
16YN
16ZEN
17HAR
09MTAVRULI CAPITAL LETTER AEN
34IN
34N
33BAN
33CAN
34HAR
35IN
34IL
33DON
33ELIFI
34N
33FI
33GAN
34HAN
33HAE
35R
36D SIGN
34E
34IE
34OE
33IN
33JHAN
34IL
33KAN
34HAR
33LABIAL SIGN
35S
33MAN
33NAR
33ON
33PAR
34HAR
33QAR
33RAE
33SAN
34HIN
33TAN
35R
34URNED GAN
33UN
33VIN
33WE
33XAN
33YN
33ZEN
34HAR
09PARAGRAPH SEPARATOR
09SMALL LETTER AEN
23N
22BAN
22CAN
23HAR
24IN
23IL
22DON
22EN
22GAN
23HAN
22HAE
24R
23E
23IE
23OE
22IN
22JHAN
23IL
22KAN
23HAR
22LAS
22MAN
22NAR
22ON
22PAR
23HAR
22QAR
22RAE
22SAN
23HIN
22TAN
24R
22UN
22VIN
22WE
22XAN
22YN
22ZEN
23HAR
02RMAN PENNY SIGN
02TA MARK
01HOST
01IMEL SYMBOL
02RAFFE FACE
03L
04S SYMBOL
01LAGOLITIC CAPITAL LETTER AZU
26BIG YUS
27UKY
26CAUDATE CHRIVI
27HRIVI
26DJERVI
27OBRO
27ZELO
26FITA
27RITU
26GLAGOLI
26HERU
26I
27NITIAL IZHE
27OTATED BIG YUS
34SMALL YUS
27ZHE
29ITSA
26KAKO
26LATINATE MYSLITE
27JUDIJE
26MYSLITE
26NASHI
26ONU
27TU
26PE
27OKOJI
26RITSI
26SHA
28TA
30PIC
27LOVO
27MALL YUS
35 WITH TAIL
27PIDERY HA
26TROKUTASTI A
27SI
27VRIDO
26UKU
26VEDE
26YATI
27ERI
29U
28STU
27O
27U
26ZEMLJA
27HIVETE
11SMALL LETTER AZU
24BIG YUS
25UKY
24CAUDATE CHRIVI
25HRIVI
24DJERVI
25OBRO
25ZELO
24FITA
25RITU
24GLAGOLI
24HERU
24I
25NITIAL IZHE
25OTATED BIG YUS
32SMALL YUS
25ZHE
27ITSA
24KAKO
24LATINATE MYSLITE
25JUDIJE
24MYSLITE
24NASHI
24ONU
25TU
24PE
25OKOJI
24RITSI
24SHA
26TA
28PIC
25LOVO
25MALL YUS
33 WITH TAIL
25PIDERY HA
24TROKUTASTI A
25SI
25VRIDO
24UKU
24VEDE
24YATI
25ERI
27U
26STU
25O
25U
24ZEMLJA
25HIVETE
03SS OF MILK
02EICH STARK
02OBE WITH MERIDIANS
03VES
03WING STAR
01OAL NET
03T
02GGLES
02LFER
02RILLA
02THIC LETTER AHSA
15IHVUS
14BAIRKAN
14DAGS
14EIS
14FAIHU
14GIBA
14HAGL
15WAIR
14IGGWS
15UJA
14JER
14KUSMA
14LAGUS
14MANNA
14NAUTHS
15INE HUNDRED
18TY
14OTHAL
14PAIRTHRA
14QAIRTHRA
14RAIDA
14SAUIL
14TEIWS
15HIUTH
14URUS
14WINJA
01RADUATION CAP
03NTHA AU LENGTH MARK
08LETTER A
16A
16I
16U
15BA
16HA
15CA
16HA
15DA
16DA
17HA
16HA
15EE
15GA
16HA
15HA
15I
16I
15JA
16HA
15KA
16HA
15LA
16LA
15MA
15NA
16GA
16NA
16YA
15OO
15PA
16HA
15RA
15SA
16HA
16SA
15TA
16HA
16TA
17HA
15U
16U
15VA
16EDIC ANUSVARA
21DOUBLE ANUSVARA
16OCALIC L
24L
23R
24R
15YA
08OM
08SIGN ANUSVARA
14VAGRAHA
13CANDRABINDU
14OMBINING ANUSVARA ABOVE
13NUKTA
13PLUTA
13VIRAMA
15SARGA
08VOWEL SIGN AA
20I
20U
19EE
19I
20I
19OO
19U
20U
19VOCALIC L
28L
27R
28R
03PES
03VE ACCENT
02EATER-THAN ABOVE DOUBLE-LINE EQUAL ABOVE LESS-THAN
19LESS-THAN ABOVE DOUBLE-LINE EQUAL
19RIGHTWARDS ARROW
19SIMILAR ABOVE LESS-THAN
27OR EQUAL
20LANTED EQUAL ABOVE LESS-THAN ABOVE SLANTED EQUAL
14ND NOT APPROXIMATE
17SINGLE-LINE NOT EQUAL TO
13BESIDE LESS-THAN
14UT NOT EQUAL TO
24IVALENT TO
13CLOSED BY CURVE
28 ABOVE SLANTED EQUAL
13EQUAL TO OR LESS-THAN
13OR APPROXIMATE
16EQUAL TO
19IVALENT TO
16LESS-THAN
16SLANTED EQUAL TO
32 WITH DOT ABOVE
47 LEFT
42INSIDE
14VER EQUAL TO
17LAPPING LESS-THAN
13SIGN
13WITH CIRCLE INSIDE
18DOT
18QUESTION MARK ABOVE
03EK ACROPHONIC ATTIC FIFTY
28 STATERS
29TALENTS
30HOUSAND
37 STATERS
25VE
27 HUNDRED
35 STATERS
36TALENTS
28STATERS
28TALENTS
29HOUSAND
36 TALENTS
23ONE DRACHMA
27HALF
28UNDRED STATERS
35TALENTS
27QUARTER
27THOUSAND STATERS
36TALENTS
23TEN MNAS
27STATERS
27TALENTS
28HOUSAND STATERS
17CARYSTIAN FIVE HUNDRED
18YRENAIC TWO DRACHMAS
17DELPHIC FIVE MNAS
17EPIDAUREAN FIVE HUNDRED
28TWO
31 DRACHMAS
17HERAEUM ONE PLETHRON
20MIONIAN FIFTY
28ONE
28TEN
17MESSENIAN TEN
17NAXIAN FIVE HUNDRED
17STRATIAN FIFTY MNAS
17THESPIAN FIFTY
28VE HUNDRED
31THOUSAND
26ONE
29 HUNDRED
30THOUSAND
26TEN
27HIRTY
28REE HUNDRED
27WO
18ROEZENIAN FIFTY
33 ALTERNATE FORM
30VE
32 HUNDRED
28TEN
31 ALTERNATE FORM
07NO TELEIA
07ROURA SIGN
08TABE SIGN
06BETA SYMBOL
06CAPITAL DOTTED LUNATE SIGMA SYMBOL
14KAI SYMBOL
14LETTER ALPHA
26 WITH DASIA
37 AND OXIA
46 AND PROSGEGRAMMENI
42PERISPOMENI
53 AND PROSGEGRAMMENI
43ROSGEGRAMMENI
42VARIA
47 AND PROSGEGRAMMENI
32MACRON
32OXIA
32PROSGEGRAMMENI
33SILI
37 AND OXIA
46 AND PROSGEGRAMMENI
42PERISPOMENI
53 AND PROSGEGRAMMENI
43ROSGEGRAMMENI
42VARIA
47 AND PROSGEGRAMMENI
32TONOS
32VARIA
33RACHY
22RCHAIC SAMPI
21BETA
21CHI
21DELTA
21EPSILON
28 WITH DASIA
39 AND OXIA
44VARIA
34OXIA
34PSILI
39 AND OXIA
44VARIA
34TONOS
34VARIA
22TA
24 WITH DASIA
35 AND OXIA
44 AND PROSGEGRAMMENI
40PERISPOMENI
51 AND PROSGEGRAMMENI
41ROSGEGRAMMENI
40VARIA
45 AND PROSGEGRAMMENI
30OXIA
30PROSGEGRAMMENI
31SILI
35 AND OXIA
44 AND PROSGEGRAMMENI
40PERISPOMENI
51 AND PROSGEGRAMMENI
41ROSGEGRAMMENI
40VARIA
45 AND PROSGEGRAMMENI
30TONOS
30VARIA
21GAMMA
21HETA
21IOTA
25 WITH DASIA
36 AND OXIA
41PERISPOMENI
41VARIA
32IALYTIKA
31MACRON
31OXIA
31PSILI
36 AND OXIA
41PERISPOMENI
41VARIA
31TONOS
31VARIA
32RACHY
21KAPPA
21LAMDA
21MU
21NU
21OMEGA
26 WITH DASIA
37 AND OXIA
46 AND PROSGEGRAMMENI
42PERISPOMENI
53 AND PROSGEGRAMMENI
43ROSGEGRAMMENI
42VARIA
47 AND PROSGEGRAMMENI
32OXIA
32PROSGEGRAMMENI
33SILI
37 AND OXIA
46 AND PROSGEGRAMMENI
42PERISPOMENI
53 AND PROSGEGRAMMENI
43ROSGEGRAMMENI
42VARIA
47 AND PROSGEGRAMMENI
32TONOS
32VARIA
23ICRON
28 WITH DASIA
39 AND OXIA
44VARIA
34OXIA
34PSILI
39 AND OXIA
44VARIA
34TONOS
34VARIA
21PAMPHYLIAN DIGAMMA
22HI
22I
22SI
21RHO
24 WITH DASIA
21SAN
22HO
22IGMA
21TAU
22HETA
21UPSILON
28 WITH DASIA
39 AND OXIA
44PERISPOMENI
44VARIA
35IALYTIKA
34MACRON
34OXIA
34TONOS
34VARIA
35RACHY
21XI
21YOT
21ZETA
15UNATE SIGMA SYMBOL
14REVERSED DOTTED LUNATE SIGMA SYMBOL
23LUNATE SIGMA SYMBOL
14THETA SYMBOL
06DASIA
11 AND OXIA
16PERISPOMENI
16VARIA
07IALYTIKA AND OXIA
20PERISPOMENI
20VARIA
16TONOS
07RACHMA SIGN
06FIVE OBOLS SIGN
07OUR OBOLS SIGN
06GRAMMA SIGN
06INDICTION SIGN
08STRUMENTAL NOTATION SYMBOL-1
361
362
363
364
367
368
369
352
363
364
365
366
367
369
3530
362
366
367
368
369
354
360
362
363
365
367
368
369
355
360
361
362
363
364
357
358
06KAI SYMBOL
08PPA SYMBOL
07ORONIS
07YATHOS BASE SIGN
06LETTER ARCHAIC KOPPA
13DIGAMMA
13KOPPA
13SAMPI
14MALL CAPITAL GAMMA
27LAMDA
27OMEGA
27PI
28SI
27RHO
14TIGMA
13YOT
07ITRA SIGN
07OWER NUMERAL SIGN
07UNATE EPSILON SYMBOL
13SIGMA SYMBOL
06METRETES SIGN
07USICAL LEIMMA
06NUMERAL SIGN
06OBOL SIGN
07NE HALF SIGN
19 ALTERNATE FORM
10QUARTER SIGN
07UNKIA SIGN
07XIA
06PERISPOMENI
07HI SYMBOL
07I SYMBOL
07ROSGEGRAMMENI
07SILI
11 AND OXIA
16PERISPOMENI
16VARIA
06QUESTION MARK
06REVERSED LUNATE EPSILON SYMBOL
07HO SYMBOL
10WITH STROKE SYMBOL
06SINUSOID SIGN
07MALL DOTTED LUNATE SIGMA SYMBOL
12LETTER ALPHA
24 WITH DASIA
35 AND OXIA
44 AND YPOGEGRAMMENI
40PERISPOMENI
51 AND YPOGEGRAMMENI
40VARIA
45 AND YPOGEGRAMMENI
40YPOGEGRAMMENI
30MACRON
30OXIA
34 AND YPOGEGRAMMENI
30PERISPOMENI
41 AND YPOGEGRAMMENI
31SILI
35 AND OXIA
44 AND YPOGEGRAMMENI
40PERISPOMENI
51 AND YPOGEGRAMMENI
40VARIA
45 AND YPOGEGRAMMENI
40YPOGEGRAMMENI
30TONOS
30VARIA
35 AND YPOGEGRAMMENI
31RACHY
30YPOGEGRAMMENI
20RCHAIC KOPPA
27SAMPI
19BETA
19CHI
19DELTA
20IGAMMA
19EPSILON
26 WITH DASIA
37 AND OXIA
42VARIA
32OXIA
32PSILI
37 AND OXIA
42VARIA
32TONOS
32VARIA
20TA
22 WITH DASIA
33 AND OXIA
42 AND YPOGEGRAMMENI
38PERISPOMENI
49 AND YPOGEGRAMMENI
38VARIA
43 AND YPOGEGRAMMENI
38YPOGEGRAMMENI
28OXIA
32 AND YPOGEGRAMMENI
28PERISPOMENI
39 AND YPOGEGRAMMENI
29SILI
33 AND OXIA
42 AND YPOGEGRAMMENI
38PERISPOMENI
49 AND YPOGEGRAMMENI
38VARIA
43 AND YPOGEGRAMMENI
38YPOGEGRAMMENI
28TONOS
28VARIA
33 AND YPOGEGRAMMENI
28YPOGEGRAMMENI
19FINAL SIGMA
19GAMMA
19HETA
19IOTA
23 WITH DASIA
34 AND OXIA
39PERISPOMENI
39VARIA
30IALYTIKA
38 AND OXIA
43PERISPOMENI
43TONOS
43VARIA
29MACRON
29OXIA
29PERISPOMENI
30SILI
34 AND OXIA
39PERISPOMENI
39VARIA
29TONOS
29VARIA
30RACHY
19KAPPA
20OPPA
19LAMDA
19MU
19NU
19OMEGA
24 WITH DASIA
35 AND OXIA
44 AND YPOGEGRAMMENI
40PERISPOMENI
51 AND YPOGEGRAMMENI
40VARIA
45 AND YPOGEGRAMMENI
40YPOGEGRAMMENI
30OXIA
34 AND YPOGEGRAMMENI
30PERISPOMENI
41 AND YPOGEGRAMMENI
31SILI
35 AND OXIA
44 AND YPOGEGRAMMENI
40PERISPOMENI
51 AND YPOGEGRAMMENI
40VARIA
45 AND YPOGEGRAMMENI
40YPOGEGRAMMENI
30TONOS
30VARIA
35 AND YPOGEGRAMMENI
30YPOGEGRAMMENI
21ICRON
26 WITH DASIA
37 AND OXIA
42VARIA
32OXIA
32PSILI
37 AND OXIA
42VARIA
32TONOS
32VARIA
19PAMPHYLIAN DIGAMMA
20HI
20I
20SI
19RHO
22 WITH DASIA
28PSILI
19SAMPI
21N
20HO
20IGMA
20TIGMA
19TAU
20HETA
19UPSILON
26 WITH DASIA
37 AND OXIA
42PERISPOMENI
42VARIA
33IALYTIKA
41 AND OXIA
46PERISPOMENI
46TONOS
46VARIA
32MACRON
32OXIA
32PERISPOMENI
33SILI
37 AND OXIA
42PERISPOMENI
42VARIA
32TONOS
32VARIA
33RACHY
19XI
19ZETA
12REVERSED DOTTED LUNATE SIGMA SYMBOL
21LUNATE SIGMA SYMBOL
07UBSCRIPT SMALL LETTER BETA
29CHI
29GAMMA
29PHI
29RHO
07YMBOL TAU RHO
06TALENT SIGN
07HETA SYMBOL
08REE OBOLS SIGN
12QUARTERS SIGN
07ONOS
07RYBLION BASE SIGN
07WO OBOLS SIGN
10THIRDS SIGN
06UPSILON WITH ACUTE AND HOOK SYMBOL
19DIAERESIS AND HOOK SYMBOL
19HOOK SYMBOL
06VARIA
07OCAL NOTATION SYMBOL-1
290
291
292
293
294
295
296
297
298
299
282
290
291
292
293
294
283
284
285
290
291
292
293
294
286
287
288
289
06XESTES SIGN
06YEAR SIGN
07POGEGRAMMENI
06ZERO SIGN
04N APPLE
06BOOK
06HEART
06SALAD
02IMACING FACE
03NNING CAT FACE WITH SMILING EYES
09FACE
13 WITH ONE LARGE AND ONE SMALL EYE
19SMILING EYES
20TAR EYES
02OUP MARK
06SEPARATOR
03WING HEART
01S
01UARANI SIGN
04DSMAN
02IDE DOG
03TAR
02JARATI ABBREVIATION SIGN
09DIGIT EIGHT
15FIVE
16OUR
15NINE
15ONE
15SEVEN
16IX
15THREE
16WO
15ZERO
09LETTER A
17A
17I
17U
16BA
17HA
16CA
17HA
16DA
17DA
18HA
17HA
16E
16GA
17HA
16HA
16I
17I
16JA
17HA
16KA
17HA
16LA
17LA
16MA
16NA
17GA
17NA
17YA
16O
16PA
17HA
16RA
16SA
17HA
17SA
16TA
17HA
17TA
18HA
16U
17U
16VA
17OCALIC L
25L
24R
25R
16YA
16ZHA
09OM
09RUPEE SIGN
09SIGN ANUSVARA
15VAGRAHA
14CANDRABINDU
15IRCLE NUKTA ABOVE
14MADDAH
14NUKTA
14SHADDA
15UKUN
14THREE-DOT NUKTA ABOVE
15WO-CIRCLE NUKTA ABOVE
14VIRAMA
16SARGA
09VOWEL CANDRA E
22O
15SIGN AA
21I
21U
20CANDRA E
27O
20E
20I
21I
20O
20U
21U
20VOCALIC L
29L
28R
29R
02NJALA GONDI DIGIT EIGHT
20FIVE
21OUR
20NINE
20ONE
20SEVEN
21IX
20THREE
21WO
20ZERO
14LETTER A
22A
22I
22U
21BA
22HA
21CA
22HA
21DA
22DA
23HA
22HA
21EE
21GA
22HA
21HA
21I
22I
21JA
22HA
21KA
22HA
21LA
22LA
21MA
21NA
22GA
21OO
21PA
22HA
21RA
21SA
21TA
22HA
22TA
23HA
21U
22U
21VA
21YA
14OM
14SIGN ANUSVARA
19VISARGA
14VIRAMA
15OWEL SIGN AA
26I
26U
25EE
25I
26I
25OO
25U
26U
02RMUKHI ABBREVIATION SIGN
10DDAK
09DIGIT EIGHT
15FIVE
16OUR
15NINE
15ONE
15SEVEN
16IX
15THREE
16WO
15ZERO
09EK ONKAR
09IRI
09LETTER A
17A
17I
17U
16BA
17HA
16CA
17HA
16DA
17DA
18HA
17HA
16EE
16FA
16GA
17HA
18HA
16HA
16I
17I
16JA
17HA
16KA
17HA
18HA
16LA
17LA
16MA
16NA
17GA
17NA
17YA
16OO
16PA
17HA
16RA
17RA
16SA
17HA
16TA
17HA
17TA
18HA
16U
17U
16VA
16YA
16ZA
09SIGN ADAK BINDI
14BINDI
14NUKTA
14UDAAT
14VIRAMA
16SARGA
14YAKASH
09TIPPI
09URA
09VOWEL SIGN AA
21I
21U
20EE
20I
21I
20OO
20U
21U
00HADES
02IR SPACE
04CUT
02LFWIDTH BLACK SQUARE
10DOWNWARDS ARROW
10FORMS LIGHT VERTICAL
10HANGUL FILLER
17LETTER A
25E
24CHIEUCH
25IEUC
24E
25O
25U
24HIEUH
24I
25EUNG
24KHIEUKH
25IYEOK
30-SIOS
24MIEUM
24NIEUN
29-CIEUC
30HIEUH
24O
25E
24PHIEUPH
25IEUP
29-SIOS
24RIEUL
29-HIEUH
30KIYEOK
30MIEUM
30PHIEUPH
31IEUP
30SIOS
30THIEUTH
24SIOS
25SANGCIEUC
29KIYEOK
29PIEUP
29SIOS
29TIKEUT
24THIEUTH
25IKEUT
24U
24WA
26E
25E
26O
25I
24YA
26E
25E
26O
25I
25O
25U
10IDEOGRAPHIC COMMA
22FULL STOP
10KATAKANA LETTER A"

/-- Names from `HALFWIDTH KATAKANA LETTER E` on. -/
def namesD : String :=
"00HALFWIDTH KATAKANA LETTER E
26HA
27E
27I
27O
27U
26I
26KA
27E
27I
27O
27U
26MA
27E
27I
27O
27U
26N
27A
27E
27I
27O
27U
26O
26RA
27E
27I
27O
27U
26SA
27E
27I
27MALL A
32E
32I
32O
32TU
32U
32YA
33O
33U
27O
27U
26TA
27E
27I
27O
27U
26U
26WA
27O
26YA
27O
27U
19MIDDLE DOT
19SEMI-VOICED SOUND MARK
19VOICED SOUND MARK
18-HIRAGANA PROLONGED SOUND MARK
10LEFT CORNER BRACKET
14WARDS ARROW
10RIGHT CORNER BRACKET
15WARDS ARROW
10UPWARDS ARROW
10WHITE CIRCLE
02MBURGER
03MER
06 AND PICK
11SICKLE
11WRENCH
03SA
04TER FACE
02ND WITH INDEX AND MIDDLE FINGERS CROSSED
16FINGER AND THUMB CROSSED
04BAG
06LL
04SHAKE
03GUL CHOSEONG CEONGCHIEUMCHIEUCH
28IEUC
27SIOS
28SANGCIEUC
32SIOS
17HIEUCH
23-HIEUH
24KHIEUKH
19TUEUMCHIEUCH
25IEUC
24SIOS
25SANGCIEUC
29SIOS
17IEUC
21-IEUNG
16FILLER
16HIEUH
21-SIOS
16IEUNG
21-CHIEUCH
23IEUC
22HIEUH
22KIYEOK
22MIEUM
22PANSIOS
23HIEUPH
23IEUP
22RIEUL
22SIOS
22THIEUTH
23IKEUT
16KAPYEOUNMIEUM
24PHIEUPH
25IEUP
24RIEUL
24SSANGPIEUP
17HIEUKH
17IYEOK
22-TIKEUT
16MIEUM
21-KIYEOK
22PIEUP
22SIOS
22TIKEUT
16NIEUN
21-CIEUC
22HIEUH
22KIYEOK
22PIEUP
22SIOS
22TIKEUT
16PANSIOS
17HIEUPH
23-HIEUH
24PIEUP
17IEUP
21-CHIEUCH
23IEUC
22HIEUH
22KHIEUKH
23IYEOK
22NIEUN
22PHIEUPH
22SIOS
26-CIEUC
27KIYEOK
27PIEUP
27THIEUTH
28IKEUT
23SANGSIOS
22THIEUTH
23IKEUT
16RIEUL
21-CIEUC
22HIEUH
22KAPYEOUNPIEUP
23HIEUKH
23IYEOK
22MIEUM
22NIEUN
22PIEUP
22SIOS
23SANGKIYEOK
27PIEUP
27TIKEUT
22TIKEUT
16SIOS
20-CHIEUCH
22IEUC
21HIEUH
21IEUNG
21KHIEUKH
22IYEOK
21MIEUM
21NIEUN
21PHIEUPH
22IEUP
26-KIYEOK
21RIEUL
21SSANGSIOS
21THIEUTH
22IKEUT
17SANGCIEUC
26-HIEUH
21HIEUH
21IEUNG
21KIYEOK
21NIEUN
21PIEUP
21RIEUL
21SIOS
25-PIEUP
21THIEUTH
22IKEUT
21YEORINHIEUH
16THIEUTH
17IKEUT
22-CIEUC
23KIYEOK
23MIEUM
23PIEUP
23RIEUL
23SIOS
16YEORINHIEUH
18SIEUNG
07DOUBLE DOT TONE MARK
07FILLER
07JONGSEONG CHIEUCH
18IEUC
22-PIEUP
23SSANGPIEUP
17HIEUH
22-MIEUM
23NIEUN
23PIEUP
23RIEUL
17IEUNG
22-KHIEUKH
24IYEOK
23SSANGKIYEOK
17KAPYEOUNMIEUM
25PHIEUPH
26IEUP
25RIEUL
18HIEUKH
18IYEOK
23-CHIEUCH
24HIEUH
24KHIEUKH
24NIEUN
24PIEUP
24RIEUL
24SIOS
28-KIYEOK
17MIEUM
22-CHIEUCH
24IEUC
23HIEUH
23KIYEOK
23NIEUN
23PANSIOS
24IEUP
28-SIOS
23RIEUL
23SIOS
24SANGNIEUN
28SIOS
17NIEUN
22-CHIEUCH
24IEUC
23HIEUH
23KIYEOK
23PANSIOS
23RIEUL
23SIOS
23THIEUTH
24IKEUT
17PANSIOS
24-KAPYEOUNPIEUP
25PIEUP
18HIEUPH
24-PIEUP
25SIOS
25THIEUTH
18IEUP
22-CHIEUCH
24IEUC
23HIEUH
23MIEUM
23PHIEUPH
23RIEUL
28-PHIEUPH
23SIOS
27-TIKEUT
23TIKEUT
17RIEUL
22-HIEUH
23KAPYEOUNPIEUP
24HIEUKH
24IYEOK
29-HIEUH
30SIOS
23MIEUM
28-HIEUH
29KIYEOK
29SIOS
23NIEUN
23PANSIOS
24HIEUPH
24IEUP
28-HIEUH
29PHIEUPH
29SIOS
29TIKEUT
23SIOS
24SANGKIYEOK
28SIOS
23THIEUTH
24IKEUT
29-HIEUH
23YEORINHIEUH
34-HIEUH
25SIEUNG
17SIOS
21-CHIEUCH
23IEUC
22HIEUH
22KAPYEOUNPIEUP
23IYEOK
22MIEUM
22PANSIOS
23IEUP
22RIEUL
22THIEUTH
23IKEUT
18SANGCIEUC
22IEUNG
22KIYEOK
22MIEUM
22NIEUN
22PIEUP
22RIEUL
27-KHIEUKH
22SIOS
26-KIYEOK
27TIKEUT
22TIKEUT
28-PIEUP
22YESIEUNG
17THIEUTH
18IKEUT
23-CHIEUCH
25IEUC
24KIYEOK
24PIEUP
24RIEUL
24SIOS
28-KIYEOK
24THIEUTH
17YEORINHIEUH
19SIEUNG
25-HIEUH
26KHIEUKH
27IYEOK
26MIEUM
26PANSIOS
26SIOS
27SANGKIYEOK
08UNGSEONG A
18-EU
19O
19U
18E
18RAEA
22-A
23E
24O
23I
23U
17E
18O
19-EU
20O
20U
18U
19-A
20E
21O
21U
20O
20U
17FILLER
17I
18-A
20RAEA
19EU
19I
19O
20-I
19U
19YA
21-O
21E
20E
21O
20O
20U
17O
18-E
20O
19O
20-I
19U
19YA
21E
20E
21O
18E
17SSANGARAEA
17U
18-A
20E
19EO-EU
19I-I
19U
19YE
21O
17WA
19E
18E
19O
18I
17YA
19-O
20U
20YO
19E
18E
19O
20-O
21U
21YA
18I
19-U
18O
19-A
21E
20EO
20I
20O
20YA
22E
21EO
18U
19-A
21E
20E
21O
20I
20O
20U
20YE
22O
07LETTER A
15E
15RAEA
19E
14CHIEUCH
15IEUC
14E
15O
15U
14HIEUH
14I
15EUNG
14KAPYEOUNMIEUM
22PHIEUPH
23IEUP
22SSANGPIEUP
15HIEUKH
15IYEOK
20-SIOS
14MIEUM
19-PANSIOS
21IEUP
20SIOS
14NIEUN
19-CIEUC
20HIEUH
20PANSIOS
20SIOS
20TIKEUT
14O
15E
14PANSIOS
15HIEUPH
15IEUP
19-CIEUC
20KIYEOK
20SIOS
24-KIYEOK
25TIKEUT
20THIEUTH
21IKEUT
14RIEUL
19-HIEUH
20KIYEOK
26-SIOS
20MIEUM
20PANSIOS
21HIEUPH
21IEUP
25-SIOS
20SIOS
20THIEUTH
21IKEUT
20YEORINHIEUH
14SIOS
18-CIEUC
19KIYEOK
19NIEUN
19PIEUP
19TIKEUT
15SANGCIEUC
19HIEUH
19IEUNG
19KIYEOK
19NIEUN
19PIEUP
19SIOS
19TIKEUT
14THIEUTH
15IKEUT
14U
14WA
16E
15E
16O
15I
14YA
16E
15E
16O
17RINHIEUH
16SIEUNG
22-PANSIOS
23SIOS
15I
15O
16-I
17YA
19E
15U
16-I
17YE
19O
07SINGLE DOT TONE MARK
04ZHOU NUMERAL EIGHT
17FIVE
18OUR
17NINE
17ONE
17SEVEN
18IX
17TEN
18HIRTY
19REE
18WENTY
19O
03IFI ROHINGYA DIGIT EIGHT
22FIVE
23OUR
22NINE
22ONE
22SEVEN
23IX
22THREE
23WO
22ZERO
16LETTER A
23BA
23CA
23DA
24DA
23FA
23GA
23HA
23JA
23KA
24HA
24INNA WA
29YA
23LA
23MA
23NA
24GA
24YA
23PA
23RA
24RA
23SA
24HA
23TA
24TA
23VA
23WA
23YA
23ZA
16MARK NA KHONNA
21SAKIN
16SIGN HARBAHAY
21TAHALA
23NA
23SSI
16VOWEL A
22E
22I
22O
22U
03UNOO LETTER A
15BA
15DA
15GA
15HA
15I
15KA
15LA
15MA
15NA
16GA
15PA
15RA
15SA
15TA
15U
15WA
15YA
08SIGN PAMUDPOD
08VOWEL SIGN I
19U
02PPY PERSON RAISING ONE HAND
02RD DISK
02TCHING CHICK
03RAN LETTER ALEPH
15YN
14BETH
14DALETH-RESH
14GIMEL
14HE
16TH
14KAPH
14LAMEDH
14MEM
14NUN
14PE
14QOPH
14SADHE
16MEKH
15HIN
14TAW
15ETH
14WAW
14YODH
14ZAYN
07NUMBER FIVE
14ONE
17 HUNDRED
14TEN
15WENTY
01EADPHONE
04STONE
09 GRAVEYARD SYMBOL
03R-NO-EVIL MONKEY
04T DECORATION
06HANDS
06WITH ARROW
11RIBBON
11TIP ON THE LEFT
03VY AMPERSAND ORNAMENT
07RROW SHAFT WIDTH ONE
27 HALF
28THIRD
24TWO THIRDS
07STERISK
06BALLOT X
07LACK CURVED DOWNWARDS AND RIGHTWARDS ARROW
19UPWARDS AND RIGHTWARDS ARROW
12HEART
11-FEATHERED NORTH EAST ARROW
22RIGHTWARDS ARROW
22SOUTH EAST ARROW
06CHECK MARK
09VRON SNOWFLAKE
07IRCLE
12 WITH CIRCLE INSIDE
18STROKE AND TWO DOTS ABOVE
12D SALTIRE
07ONCAVE-POINTED BLACK RIGHTWARDS ARROW
06DASHED TRIANGLE-HEADED RIGHTWARDS ARROW
07IVISION SIGN
07OLLAR SIGN
08UBLE COMMA QUOTATION MARK ORNAMENT
13TURNED COMMA QUOTATION MARK ORNAMENT
08WNWARDS ARROW WITH EQUILATERAL ARROWHEAD
27LARGE EQUILATERAL ARROWHEAD
06EIGHT POINTED BLACK STAR
20PINWHEEL STAR
20RECTILINEAR BLACK STAR
12SPOKED ASTERISK
12TEARDROP-SPOKED PROPELLER ASTERISK
07QUALS SIGN
07XCLAMATION MARK ORNAMENT
23SYMBOL
06FIVE POINTED BLACK STAR
11SPOKED ASTERISK
07OUR BALLOON-SPOKED ASTERISK
06GREEK CROSS
06HEART EXCLAMATION MARK ORNAMENT
07ORIZONTAL FILL
06INTERROBANG ORNAMENT
06LARGE CIRCLE
08TIN CROSS
07EFT-POINTING ANGLE BRACKET ORNAMENT
26QUOTATION MARK ORNAMENT
10WARDS ARROW WITH EQUILATERAL ARROWHEAD
27LARGE EQUILATERAL ARROWHEAD
07IGATURE OPEN ET ORNAMENT
07OW DOUBLE COMMA QUOTATION MARK ORNAMENT
10SINGLE COMMA QUOTATION MARK ORNAMENT
09ER RIGHT-SHADOWED WHITE RIGHTWARDS ARROW
06MINUS SIGN
07ULTIPLICATION X
06NORTH EAST ARROW
17POINTING BUD
26VINE LEAF
12WEST POINTING BUD
26VINE LEAF
06OPEN CENTRE CROSS
07UTLINED BLACK STAR
07VAL WITH OVAL INSIDE
06PLUS SIGN
06RIGHT-POINTING ANGLE BRACKET ORNAMENT
27QUOTATION MARK ORNAMENT
11WARDS ARROW
22 WITH EQUILATERAL ARROWHEAD
28LARGE EQUILATERAL ARROWHEAD
07OUND-TIPPED RIGHTWARDS ARROW
06SALTIRE
08NS-SERIF INTERROBANG ORNAMENT
07CRIPT LIGATURE ET ORNAMENT
07INGLE COMMA QUOTATION MARK ORNAMENT
13TURNED COMMA QUOTATION MARK ORNAMENT
08X POINTED BLACK STAR
10SPOKED ASTERISK
07OUTH EAST ARROW
17POINTING BUD
26VINE LEAF
12WEST POINTING BUD
26VINE LEAF
07PARKLE
06TEARDROP-SHANKED RIGHTWARDS ARROW
16POKED ASTERISK
22PINWHEEL ASTERISK
07RIANGLE-HEADED RIGHTWARDS ARROW
07WELVE POINTED BLACK STAR
21PINWHEEL STAR
06UPPER RIGHT-SHADOWED WHITE RIGHTWARDS ARROW
08WARDS ARROW WITH EQUILATERAL ARROWHEAD
25LARGE EQUILATERAL ARROWHEAD
06VERTICAL BAR
06WEDGE-TAILED RIGHTWARDS ARROW
07HITE CIRCLE
12DOWN-POINTING TRIANGLE
12SQUARE
07IDE-HEADED RIGHTWARDS ARROW
02BREW ACCENT ATNAH HAFUKH
14DARGA
15EHI
14ETNAHTA
14GERESH
20 MUQDAM
17SHAYIM
14ILUY
14MAHAPAKH
15ERKHA
20 KEFULA
15UNAH
14OLE
14PASHTA
16ZER
14QADMA
16RNEY PARA
14REVIA
14SEGOL
15HALSHELET
14TELISHA GEDOLA
22QETANA
16VIR
15IPEHA
14YERAH BEN YOMO
16TIV
14ZAQEF GADOL
20QATAN
16RQA
15INOR
07LETTER ALEF
18 WITH MAPIQ
24PATAH
24QAMATS
16TERNATIVE AYIN
26PLUS SIGN
15YIN
14BET
17 WITH DAGESH
23RAFE
14DALET
19 WITH DAGESH
14FINAL KAF
23 WITH DAGESH
20MEM
20NUN
20PE
22 WITH DAGESH
20TSADI
14GIMEL
19 WITH DAGESH
14HE
16 WITH MAPIQ
16T
14KAF
17 WITH DAGESH
23RAFE
14LAMED
19 WITH DAGESH
14MEM
17 WITH DAGESH
14NUN
17 WITH DAGESH
14PE
16 WITH DAGESH
22RAFE
14QOF
17 WITH DAGESH
14RESH
18 WITH DAGESH
14SAMEKH
20 WITH DAGESH
15HIN
18 WITH DAGESH
30 AND SHIN DOT
36IN DOT
24SHIN DOT
25IN DOT
14TAV
17 WITH DAGESH
15ET
17 WITH DAGESH
15SADI
19 WITH DAGESH
14VAV
17 WITH DAGESH
23HOLAM
14WIDE ALEF
19DALET
19FINAL MEM
19HE
19KAF
19LAMED
19RESH
19TAV
14YOD
17 WITH DAGESH
23HIRIQ
14ZAYIN
19 WITH DAGESH
08IGATURE ALEF LAMED
16YIDDISH DOUBLE VAV
31YOD
24VAV YOD
24YOD YOD PATAH
07MARK LOWER DOT
12MASORA CIRCLE
12UPPER DOT
07POINT DAGESH OR MAPIQ
13HATAF PATAH
19QAMATS
19SEGOL
14IRIQ
14OLAM
18 HASER FOR VAV
13JUDEO-SPANISH VARIKA
13METEG
13PATAH
13QAMATS
19 QATAN
14UBUTS
13RAFE
13SEGOL
14HEVA
15IN DOT
14IN DOT
13TSERE
08UNCTUATION GERESH
22SHAYIM
19MAQAF
19NUN HAFUKHA
19PASEQ
19SOF PASUQ
07YOD TRIANGLE
02DGEHOG
02LICOPTER
03LSCHREIBER PAUSE SYMBOL
03M SYMBOL
04ET WITH WHITE CROSS
02NTAIGANA LETTER A-1
202
203
20WO
18E-1
202
203
204
205
206
18HA-1
220
221
212
213
214
215
216
217
218
219
19E-1
212
213
214
215
216
217
19I-1
212
213
214
215
216
217
19O-1
212
213
214
215
216
217
218
19U-1
212
213
18I-1
202
203
204
18KA-1
220
221
212
213
214
215
216
217
218
219
21KE
19E-1
212
213
214
215
216
19I-1
212
213
214
215
216
217
218
19O-1
212
213
21KI
19U-1
212
213
214
215
216
217
18MA-1
212
213
214
215
216
217
19E-1
212
21MA
19I-1
212
213
214
215
216
217
19O-1
212
213
214
215
216
19U-1
212
213
214
18N-MU-MO-1
262
19A-1
212
213
214
215
216
217
218
219
19E-1
212
213
214
215
216
21KO
19I-1
212
213
214
215
216
217
21TE
19O-1
212
213
214
215
19U-1
212
213
18O-1
202
203
18RA-1
212
213
214
19E-1
212
213
214
19I-1
212
213
214
215
216
217
19O-1
212
213
214
215
216
19U-1
212
213
214
215
216
18SA-1
212
213
214
215
216
217
218
19E-1
212
213
214
215
19I-1
212
213
214
215
216
19O-1
212
213
214
215
216
217
19U-1
212
213
214
215
216
217
218
18TA-1
212
213
214
19E-1
212
213
214
215
216
217
218
219
19I-1
212
213
214
215
216
217
19O-1
212
213
214
215
216
21RA
19U-1
212
213
214
21TO
18U-1
202
203
204
205
18WA-1
212
213
214
215
19E-1
212
213
214
19I-1
212
213
214
215
19O-1
212
213
214
215
216
217
18YA-1
212
213
214
215
21YO
19O-1
212
213
214
215
216
19U-1
212
213
214
02RB
03MITIAN CONJUGATE MATRIX
02XAGRAM FOR ABUNDANCE
14FTER COMPLETION
14PPROACH
13BEFORE COMPLETION
14ITING THROUGH
14REAKTHROUGH
13COMING TO MEET
15NFLICT
16TEMPLATION
13DARKENING OF THE LIGHT
14ECREASE
15LIVERANCE
15VELOPMENT
14IFFICULTY AT THE BEGINNING
15SPERSION
14URATION
13ENTHUSIASM
13FELLOWSHIP
14OLLOWING
13GATHERING TOGETHER
14RACE
15EAT POSSESSION
21WER
20REPONDERANCE
19TAMING
13HOLDING TOGETHER
13INCREASE
15FLUENCE
15NER TRUTH
16OCENCE
13LIMITATION
13MODESTY
15UTH CORNERS
13OBSTRUCTION
14PPOSITION
16RESSION
13PEACE
14ROGRESS
14USHING UPWARD
13RETREAT
16URN
15VOLUTION
13SMALL PREPONDERANCE
19TAMING
14PLITTING APART
14TANDSTILL
13THE ABYSMAL WATER
18RMY
19OUSING THUNDER
17CAULDRON
18LINGING FIRE
18REATIVE HEAVEN
17FAMILY
17GENTLE WIND
17JOYOUS LAKE
17KEEPING STILL MOUNTAIN
17MARRYING MAIDEN
17RECEPTIVE EARTH
17WANDERER
18ELL
14READING
13WAITING
14ORK ON THE DECAYED
13YOUTHFUL FOLLY
01IBISCUS
02GH BRIGHTNESS SYMBOL
05OCTET PRESET
05VOLTAGE SIGN
04-HEELED SHOE
05SPEED TRAIN
16 WITH BULLET NOSE
02KING BOOT
02NDU TEMPLE
02PPOPOTAMUS
02RAGANA DIGRAPH YORI
09ITERATION MARK
09LETTER A
17RCHAIC WU
24YE
16BA
17E
17I
17O
17U
16DA
17E
17I
17O
17U
16E
16GA
17E
17I
17O
17U
16HA
17E
17I
17O
17U
16I
16KA
17E
17I
17O
17U
16MA
17E
17I
17O
17U
16N
17A
17E
17I
17O
17U
16O
16PA
17E
17I
17O
17U
16RA
17E
17I
17O
17U
16SA
17E
17I
17MALL A
22E
22I
22KA
23E
22O
22TU
22U
22WA
23E
23I
23O
22YA
23O
23U
17O
17U
16TA
17E
17I
17O
17U
16U
16VU
16WA
17E
17I
17O
16YA
17O
17U
16ZA
17E
17I
17O
17U
09VOICED ITERATION MARK
02STORIC SITE
01OCHO
02LE
03LOW QUILT SQUARE ORNAMENT
28 IN BLACK SQUARE
02MOTHETIC
02NEY POT
05BEE
02OK
02P
02RIZONTAL BAR
12LACK HEXAGON
17OCTAGON
11ELLIPSIS
11LINE EXTENSION
11MALE WITH STROKE SIGN
11ONE EIGHTH BLOCK-1358
282
283
284
285
286
287
11SCAN LINE-1
213
217
219
11TAB KEY
14ULATION
21 SET
22WITH JUSTIFICATION
12RAFFIC LIGHT
03SE
05 FACE
06RACING
02SPITAL
02T BEVERAGE
04DOG
04PEPPER
04SPRINGS
03EL
02URGLASS
09 WITH FLOWING SAND
03SE
05 BUILDING
14S
06WITH GARDEN
01RYVNIA SIGN
01T
02J
02S
01UGGING FACE
02NDRED POINTS SYMBOL
02SHED FACE
02T
01YGIEA
02PHEN
06 BULLET
07WITH DIAERESIS
06-MINUS
06ATION POINT
03ODIASTOLE
02STERESIS SYMBOL
00I LOVE YOU HAND SIGN
01CE CREAM
05UBE
04HOCKEY STICK AND PUCK
04SKATE
01DENTICAL TO
12 AND SLANTED PARALLEL
10WITH DOT ABOVE
06FICATION CARD
03OGRAPHIC ANNOTATION BOTTOM MARK
23EARTH MARK
23FIRST MARK
24OUR MARK
27TH MARK
23HEAVEN MARK
23LINKING MARK
23MAN MARK
24IDDLE MARK
23ONE MARK
23REVERSE MARK
23SECOND MARK
23THIRD MARK
25REE MARK
24OP MARK
24WO MARK
12CLOSING MARK
13OMMA
12DEPARTING TONE MARK
14SCRIPTION CHARACTER ABOVE TO BELOW
43MIDDLE AND BELOW
34FULL SURROUND
34LEFT TO MIDDLE AND RIGHT
42RIGHT
34OVERLAID
34SURROUND FROM ABOVE
48BELOW
48LEFT
49OWER LEFT
48UPPER LEFT
54RIGHT
12ENTERING TONE MARK
12FULL STOP
12HALF FILL SPACE
12ITERATION MARK
12LEVEL TONE MARK
12NUMBER ZERO
12RISING TONE MARK
12SPACE
12TALLY MARK FIVE
24OUR
23ONE
23THREE
24WO
13ELEGRAPH LINE FEED SEPARATOR SYMBOL
22SYMBOL FOR APRIL
34UGUST
33DAY EIGHT
42EEN
38LEVEN
37FIFTEEN
39VE
38OUR
41TEEN
37NINE
41TEEN
37ONE
37SEVEN
42TEEN
38IX
40TEEN
37TEN
38HIRTEEN
42Y
43-ONE
39REE
38WELVE
40NTY
43-EIGHT
44FIVE
45OUR
44NINE
44ONE
44SEVEN
45IX
44THREE
45WO
39O
34ECEMBER
33FEBRUARY
33HOUR EIGHT
43EEN
39LEVEN
38FIFTEEN
40VE
39OUR
42TEEN
38NINE
42TEEN
38ONE
38SEVEN
43TEEN
39IX
41TEEN
38TEN
39HIRTEEN
40REE
39WELVE
41NTY
44-FOUR
45ONE
45THREE
46WO
40O
38ZERO
33JANUARY
34ULY
35NE
33MARCH
35Y
33NOVEMBER
33OCTOBER
33SEPTEMBER
12VARIATION INDICATOR
01MAGE OF
08 OR APPROXIMATELY EQUAL TO
02P
03ERIAL ARAMAIC LETTER ALEPH
25YIN
24BETH
24DALETH
24GIMEL
24HE
26TH
24KAPH
24LAMEDH
24MEM
24NUN
24PE
24QOPH
24RESH
24SADHE
26MEKH
25HIN
24TAW
25ETH
24WAW
24YODH
24ZAYIN
17NUMBER ONE
27 HUNDRED
28THOUSAND
24TEN
27 THOUSAND
25HREE
25WENTY
26O
17SECTION SIGN
01NBOX TRAY
02COMING ENVELOPE
05PLETE INFINITY
03REASE FONT SIZE SYMBOL
08S AS
05MENT
02D
03EX
05 POINTING AT THE VIEWER
03IAN RUPEE SIGN
04C SIYAQ ALTERNATE LAKH MARK
12FRACTION ONE HALF
25QUARTER
21THREE QUARTERS
12LAKH MARK
12NUMBER ALTERNATE ONE
29TEN THOUSAND
30WO
19EIGHT
24 HUNDRED
25THOUSAND
24Y
25 THOUSAND
19FIFTY
24 THOUSAND
21VE
23 HUNDRED
24THOUSAND
20ORTY
24 THOUSAND
21UR
23 HUNDRED
24THOUSAND
19KAROR
24AN
19LAKH
23AN
19NINE
23 HUNDRED
24THOUSAND
23TY
25 THOUSAND
19ONE
22 HUNDRED
23THOUSAND
19PREFIXED EIGHT
28FIVE
29OUR
28NINE
28ONE
28SEVEN
29IX
28THREE
29WO
19SEVEN
24 HUNDRED
25THOUSAND
24TY
26 THOUSAND
20IX
22 HUNDRED
23THOUSAND
22TY
24 THOUSAND
19TEN
22 THOUSAND
20HIRTY
25 THOUSAND
21REE
24 HUNDRED
25THOUSAND
20WENTY
25 THOUSAND
21O
22 HUNDRED
23THOUSAND
12PLACEHOLDER
12RUPEE MARK
02FINITY
08 NEGATED WITH VERTICAL BAR
03ORMATION DESK PERSON
12SEPARATOR FOUR
22ONE
22THREE
23WO
13OURCE
02HIBIT ARABIC FORM SHAPING
08SYMMETRIC SWAPPING
02PUT SYMBOL FOR LATIN CAPITAL LETTERS
23LETTERS
23SMALL LETTERS
17NUMBERS
17SYMBOLS
02SCRIPTIONAL PAHLAVI LETTER ALEPH
29BETH
29DALETH
29GIMEL
29HE
31TH
29KAPH
29LAMEDH
29MEM-QOPH
29NUN
29PE
29SADHE
31MEKH
30HIN
29TAW
30ETH
29WAW-AYIN-RESH
29YODH
29ZAYIN
22NUMBER FOUR
29ONE
32 HUNDRED
33THOUSAND
29TEN
30HREE
30WENTY
31O
16RTHIAN LETTER ALEPH
31YIN
30BETH
30DALETH
30GIMEL
30HE
32TH
30KAPH
30LAMEDH
30MEM
30NUN
30PE
30QOPH
30RESH
30SADHE
32MEKH
31HIN
30TAW
31ETH
30WAW
30YODH
30ZAYIN
23NUMBER FOUR
30ONE
33 HUNDRED
34THOUSAND
30TEN
31HREE
31WENTY
32O
03ERTION SYMBOL
02TEGRAL
08 AROUND A POINT OPERATOR
10VERAGE WITH SLASH
09EXTENSION
09WITH DOUBLE STROKE
14INTERSECTION
14LEFTWARDS ARROW WITH HOOK
14OVERBAR
14TIMES SIGN
14UNDERBAR
16ION
04RCALATE
05IOR PRODUCT
05LINEAR ANNOTATION ANCHOR
23SEPARATOR
23TERMINATOR
06OCKED FEMALE AND MALE SIGN
05ROBANG
05SECTION
12 ABOVE BAR ABOVE UNION
19UNION
13BESIDE AND JOINED WITH INTERSECTION
13WITH DOT
18LOGICAL AND
18OVERBAR
02VERSE BULLET
08CHECK MARK
13ER BOARD FILL
08DOWNWARDS ARROW WITH TIP LEFTWARDS
08MEDIUM SHADE
08WHITE CIRCLE
05TED EXCLAMATION MARK
09INTERROBANG
09LAZY S
10OW KAVYKA
19 WITH KAVYKA ABOVE
09OHM SIGN
09PENTAGRAM
09QUESTION MARK
09UNDERTIE
03ISIBLE PLUS
10SEPARATOR
10TIMES
01ZAKAYA LANTERN
00JACK-O-LANTERN
02PANESE BANK SYMBOL
09CASTLE
09DOLLS
09GOBLIN
09INDUSTRIAL STANDARD SYMBOL
09OGRE
09POST OFFICE
09SYMBOL FOR BEGINNER
02R
02VANESE CONSONANT SIGN CAKRA
24KERET
24PENGKAL
09DIGIT EIGHT
15FIVE
16OUR
15NINE
15ONE
15SEVEN
16IX
15THREE
16WO
15ZERO
09LEFT RERENGGAN
11TTER A
17I
16BA
18 MURDA
16CA
18 MURDA
16DA
18 MAHAPRANA
17DA
19 MAHAPRANA
16E
16GA
18 MURDA
16HA
16I
17 KAWI
17I
16JA
18 MAHAPRANA
16KA
18 MURDA
19SASAK
16LA
16MA
16NA
18 MURDA
17GA
19 LELET
25 RASWADI
17YA
19 MURDA
16O
16PA
18 CEREK
19MURDA
16RA
18 AGUNG
16SA
18 MAHAPRANA
20URDA
16TA
18 MURDA
17TA
19 MAHAPRANA
16U
16WA
16YA
09PADA ADEG
18 ADEG
15NDAP
14ISEN-ISEN
14LINGSA
15UHUR
16NGSI
14MADYA
14PANGKAT
15ISELEH
14TIRTA TUMETES
14WINDU
11NGKON
13RANGKEP
09RIGHT RERENGGAN
09SIGN CECAK
19 TELU
14LAYAR
14PANYANGGA
14WIGNYAN
09TURNED PADA PISELEH
09VOWEL SIGN DIRGA MURE
20PEPET
20SUKU
24 MENDUT
20TALING
22RUNG
21OLONG
20WULU
24 MELIK
01EANS
01IGSAW PUZZLE PIECE
01OIN
02YSTICK
01UGGLING
02NO
02PITER
00KAABA
02ITHI ABBREVIATION SIGN
07DANDA
08OUBLE DANDA
14SECTION MARK
07ENUMERATION SIGN
07LETTER A
15A
15I
15U
14BA
15HA
14CA
15HA
14DA
15DA
16DHA
16HA
15HA
14E
14GA
15HA
14HA
14I
15I
14JA
15HA
14KA
15HA
14LA
14MA
14NA
15GA
15NA
15YA
14O
14PA
15HA
14RA
15HA
14SA
15HA
15SA
14TA
15HA
15TA
16HA
14U
15U
14VA
14YA
07NUMBER SIGN
18 ABOVE
07SECTION MARK
08IGN ANUSVARA
12CANDRABINDU
12NUKTA
12VIRAMA
14SARGA
07VOWEL SIGN AA
19I
19U
18E
18I
19I
18O
18U
19U
18VOCALIC R
02NGAROO
04XI RADICAL AGAIN
16ND
16RRIVE
18OW
16XE
15BADGER
17MBOO
16EAN
16IG
17RD
17TTER
16LACK
17OOD
17UE
16OAT
17DY
17LT OF CLOTH
17NE
17W
16RANCH
17ISTLE
17USH
15CART
17ULDRON
17VE
16HILD
16ITY
16LAN
18W
17IFF
17OTHES
16OLOR
17MPARE
17RPSE
17VER
17W
15DEATH
17ER
16IPPER
17SH
18TINGUISH
17VINATION
16O NOT
17G
17OR
17T
18TED CLIFF
22TENT
17UBLE X
17WN BOX
16RAGON
17UM
17Y
15EAR
18TH
17T
16IGHT
16MBROIDERY
16NCLOSURE
17TER
16VEN
19ING
16YE
15FACE
17NG
17THER
16EATHER
16IELD
17GHT
17RE
17SH
16LUTE
17Y
16OOT
16RAGRANT
17OG
16UR
15GATE
16HOST
16O
17 SLOWLY
17LD
16RAIN
18SS
15HAIR
17LBERD
18F TREE TRUNK
17ND
16EAD
18RT
17MP
16IDING ENCLOSURE
16OOK
17RN
18SE
15ICE
16NCH
17SECT
15JADE
17R
15KNIFE
15LACK
17ME
16EAF
18THER
17EK
17GS
16ID
17FE
17NE
16ONG
19 STRIDE
15MAN
16EAT
17LON
16ILLET
17NISTER
16OON
17RNING
18TAR
17UND
19TAIN
18TH
15NET
16OSE
17T
15OLD
16NE
18SELF
16PEN BOX
17POSE
15PIG
16LOW
16OWER
16RIVATE
17OFOUND
15RAIN
17P
17T
16ED
16ICE
17GHT OPEN BOX
17VER
16OOF
16UN
15SACRIFICIAL WINE
17LT
17Y
16CHOLAR
17RIPT
16EAL
17COND
17E
17LF
16HEEP
18LL
17OOT
18RT TAILED BIRD
22HREAD
16ICKNESS
17LK
16KIN
16LASH
18VE
17ICE
16MALL
16NOUT
16OUND
16PEAR
18ECH
17IRIT
17OON
17ROUT
16QUARE
16TAND
17EAM
18P
17ONE
18P
19PING
16UN
16WEET
15TABLE
17LL
17NNED LEATHER
16EN
16IGER
17LE
16ONGUE
17OTH
16RACK
17EE
17IPOD
16URBAN
18TLE
16WO
18 HANDS
15USE
15VALLEY
16ILLAGE
15WALK
19 ENCLOSURE
17TER
16EAPON
17ST
16HEAT
17ITE
16IND
18E
16OMAN
17RK
16RAP
17ONG
15YELLOW
03NADA AI LENGTH MARK
08DIGIT EIGHT
14FIVE
15OUR
14NINE
14ONE
14SEVEN
15IX
14THREE
15WO
14ZERO
08LENGTH MARK
10TTER A
16A
16I
16U
15BA
16HA
15CA
16HA
15DA
16DA
17HA
16HA
15E
16E
15FA
15GA
16HA
15HA
15I
16I
15JA
16HA
15KA
16HA
15LA
16LA
17LA
15MA
15NA
17KAARA POLLU
16GA
16NA
16YA
15O
16O
15PA
16HA
15RA
16RA
15SA
16HA
16SA
15TA
16HA
16TA
17HA
15U
16U
15VA
16OCALIC L
24L
23R
24R
15YA
08SIGN ANUSVARA
14VAGRAHA
13CANDRABINDU
13JIHVAMULIYA
13NUKTA
13SIDDHAM
14PACING CANDRABINDU
13UPADHMANIYA
13VIRAMA
15SARGA
08VOWEL SIGN AA
20I
20U
19E
20E
19I
20I
19O
20O
19U
20U
19VOCALIC L
28L
27R
28R
02TAKANA DIGRAPH KOTO
09ITERATION MARK
09LETTER A
17RCHAIC E
24WU
24YE
25I
16BA
17E
17I
17O
17U
16DA
17E
17I
17O
17U
16E
16GA
17E
17I
17O
17U
16HA
17E
17I
17O
17U
16I
16KA
17E
17I
17O
17U
16MA
17E
17I
18NNAN NASALIZED TONE-1
382
383
384
385
387
388
23TONE-2
283
284
285
287
288
17O
17U
16N
17A
17E
17I
17O
17U
16O
16PA
17E
17I
17O
17U
16RA
17E
17I
17O
17U
16SA
17E
17I
17MALL A
22E
22HA
23E
23I
23O
23U
22I
22KA
23E
23U
22MU
22N
23U
22O
22RA
23E
23I
23O
23U
22SI
23U
22TO
23U
22U
22WA
23E
23I
23O
22YA
23O
23U
17O
17U
16TA
17E
17I
17O
17U
16U
16VA
17E
17I
17O
17U
16WA
17E
17I
17O
16YA
17O
17U
16ZA
17E
17I
17O
17U
09MIDDLE DOT
09VOICED ITERATION MARK
08-HIRAGANA DOUBLE HYPHEN
18PROLONGED SOUND MARK
18SEMI-VOICED SOUND MARK
18VOICED SOUND MARK
02YAH LI DIGIT EIGHT
15FIVE
16OUR
15NINE
15ONE
15SEVEN
16IX
15THREE
16WO
15ZERO
09LETTER A
16BA
16CA
16DA
16GA
16HA
17TA
16I
16KA
17HA
16LA
16MA
16NA
17GA
17YA
16OE
17O
16PA
17HA
16RA
16SA
17HA
16TA
17HA
16VA
16WA
16YA
16ZA
09SIGN CWI
14SHYA
09TONE CALYA
19 PLOPHU
14PLOPHU
09VOWEL E
16E
15O
15U
16E
01ELVIN SIGN
02Y
03BOARD
08 AND MOUSE
03CAP TEN
01HAROSHTHI DIGIT FOUR
17ONE
17THREE
18WO
11FRACTION ONE HALF
11LETTER A
18BA
19HA
18CA
19HA
18DA
19DA
20HA
19HA
18GA
19HA
18HA
18JA
18KA
19HA
19KA
18LA
18MA
18NA
19NA
19YA
18PA
19HA
18RA
18SA
19HA
19SA
18TA
19HA
19TA
20HA
20TA
21HA
18VA
19HA
18YA
18ZA
11NUMBER ONE HUNDRED
22THOUSAND
18TEN
19WENTY
11PUNCTUATION CIRCLE
24RESCENT BAR
23DANDA
24OT
25UBLE DANDA
23LINES
24OTUS
23MANGALAM
23SMALL CIRCLE
11SIGN ANUSVARA
16BAR ABOVE
16CAUDA
16DOT BELOW
18UBLE RING BELOW
16VISARGA
11VIRAMA
12OWEL LENGTH MARK
17SIGN E
22I
22O
22U
22VOCALIC R
02ITAN SMALL SCRIPT CHARACTER-18B00
341
342
343
344
345
346
347
348
349
34A
34B
34C
34D
34E
34F
3310
341
342
343
344
345
346
347
348
349
34A
34B
34C
34D
34E
34F
3320
341
342
343
344
345
346
347
348
349
34A
34B
34C
34D
34E
34F
3330
341
342
343
344
345
346
347
348
349
34A
34B
34C
34D
34E
34F
3340
341
342
343
344
345
346
347
348
349
34A
34B
34C
34D
34E
34F
3350
341
342
343
344
345
346
347
348
349
34A
34B
34C
34D
34E
34F
3360
341
342
343
344
345
346
347
348
349
34A
34B
34C
34D
34E
34F
3370
341
342
343
344
345
346
347
348
349
34A
34B
34C
34D
34E
34F
3380
341
342
343
344
345
346
347
348
349
34A
34B
34C
34D
34E
34F
3390
341
342
343
344
345
346
347
348
349
34A
34B
34C
34D
34E
34F
33A0
341
342
343
344
345
346
347
348
349
34A
34B
34C
34D
34E
34F
33B0
341
342
343
344
345
346
347
348
349
34A
34B
34C
34D
34E
34F
33C0
341
342
343
344
345
346
347
348
349
34A
34B
34C
34D
34E
34F
33D0
341
342
343
344
345
346
347
348
349
34A
34B
34C
34D
34E
34F
33E0
341
342
343
344
345
346
347
348
349
34A
34B
34C
34D
34E
34F
33F0
341
342
343
344
345
346
347
348
349
34A
34B
34C
34D
34E
34F
32C00
341
342
343
344
345
346
347
348
349
34A
34B
34C
34D
34E
34F
3310
341
342
343
344
345
346
347
348
349
34A
34B
34C
34D
34E
34F
3320
341
342
343
344
345
346
347
348
349
34A
34B
34C
34D
34E
34F
3330
341
342
343
344
345
346
347
348
349
34A
34B
34C
34D
34E
34F
3340
341
342
343
344
345
346
347
348
349
34A
34B
34C
34D
34E
34F
3350
341
342
343
344
345
346
347
348
349
34A
34B
34C
34D
34E
34F
3360
341
342
343
344
345
346
347
348
349
34A
34B
34C
34D
34E
34F
3370
341
342
343
344
345
346
347
348
349
34A
34B
34C
34D
34E
34F
3380
341
342
343
344
345
346
347
348
349
34A
34B
34C
34D
34E
34F
3390
341
342
343
344
345
346
347
348
349
34A
34B
34C
34D
34E
34F
33A0
341
342
343
344
345
346
347
348
349
34A
34B
34C
34D
34E
34F
33B0
341
342
343
344
345
346
347
348
349
34A
34B
34C
34D
34E
34F
33C0
341
342
343
344
345
346
347
348
349
34A
34B
34C
34D
34E
34F
33D0
341
342
343
344
345
20FILLER
02MER CURRENCY SYMBOL RIEL
06DIGIT EIGHT
12FIVE
13OUR
12NINE
12ONE
12SEVEN
13IX
12THREE
13WO
12ZERO
06INDEPENDENT VOWEL LY
26Y
24QAA
26I
26Q
26U
25E
25I
26I
25OO TYPE ONE
33TWO
25U
26K
26U
27V
24RY
26Y
06LETTER BA
13CA
14HA
15O
14O
13DA
14O
13HA
13KA
14HA
15O
14O
13LA
14O
13MO
13NGO
14NO
14O
14YO
13PHA
15O
14O
13QA
13RO
13SA
14HA
14SO
13TA
14HA
15O
14O
14THA
16O
13VO
13YO
06SIGN AHSDA
12TTHACAN
12VAKRAHASANYA
11BANTOC
13RIYOOSAN
13THAMASAT
12EYYAL
11CAMNUC PII KUUH
12OENG
11KAKABAT
12HAN
12OOMUUT
11LEK TOO
11MUUSIKATOAN
11NIKAHIT
11PHNAEK MUAN
11REAHMUK
12OBAT
11SAMYOK SANNYA
11TOANDAKHIAT
12RIISAP
11VIRIAM
11YUUKALEAPINTU
07YMBOL BEI KOET
17ROC
14UON KOET
18ROC
13DAP KOET
17ROC
16-BEI KOET
21ROC
18UON KOET
22ROC
17MUOY KOET
22ROC
17PII KOET
21ROC
18RAM KOET
22ROC
13LEK ATTAK BEI
24UON
23MUOY
23PII
24RAM
27-BEI
29UON
28MUOY
28PII
23SON
13MUOY KOET
18ROC
13PATHAMASAT
14II KOET
17ROC
14RAM KOET
18ROC
17-BEI KOET
22ROC
19UON KOET
23ROC
18MUOY KOET
23ROC
18PII KOET
22ROC
13TUTEYASAT
06VOWEL INHERENT AA
22Q
12SIGN AA
18E
18I
18U
17E
17I
18E
18I
17OE
18O
17U
18A
18U
17Y
18A
18Y
02OJKI ABBREVIATION SIGN
07DANDA
08OUBLE DANDA
14SECTION MARK
07LETTER A
15A
15I
15U
14BA
15BA
15HA
14CA
15HA
14DA
15DA
16DA
16HA
15HA
14E
14GA
15GA
15HA
14HA
14I
14JA
15JA
14KA
15HA
14LA
15LA
14MA
14NA
15GA
15NA
15YA
14O
14PA
15HA
14RA
14SA
14TA
15HA
15TA
16HA
14U
14VA
14YA
07SECTION MARK
08IGN ANUSVARA
12NUKTA
12SHADDA
13UKUN
12VIRAMA
07VOWEL SIGN AA
19I
19U
18E
18I
19I
18O
18U
07WORD SEPARATOR
02UDAWADI DIGIT EIGHT
16FIVE
17OUR
16NINE
16ONE
16SEVEN
17IX
16THREE
17WO
16ZERO
10LETTER A
18A
18I
18U
17BA
18BA
18HA
17CA
18HA
17DA
18DA
19DA
19HA
18HA
17E
17GA
18GA
18HA
17HA
17I
18I
17JA
18HA
18JA
17KA
18HA
17LA
17MA
17NA
18GA
18NA
18YA
17O
17PA
18HA
17RA
18RA
17SA
18HA
17TA
18HA
18TA
19HA
17U
18U
17VA
17YA
10SIGN ANUSVARA
15NUKTA
15VIRAMA
10VOWEL SIGN AA
22I
22U
21E
21I
22I
21O
21U
22U
01IMONO
02P SIGN
02SS
04 MARK
04ING CAT FACE WITH CLOSED EYES
08FACE
12 WITH CLOSED EYES
18SMILING EYES
02TE
02WIFRUIT
01NEELING PERSON
02OT
01OALA
02REAN STANDARD SYMBOL
01RONOS
00L B BAR SYMBOL
01AB COAT
03EL
02CROSSE STICK AND BALL
02DDER
03Y BEETLE
02NGUAGE TAG
02O CANCELLATION MARK
04DIGIT EIGHT
10FIVE
11OUR
10NINE
10ONE
10SEVEN
11IX
10THREE
11WO
10ZERO
04ELLIPSIS
04HO MO
07NO
04KO LA
04LETTER BO
11CO
11DO
11FO FAY
15ON
14SUNG
14TAM
11HO SUNG
14TAM
11KHMU GO
16NYO
13O SUNG
15TAM
12O
11LO
13 LING
15OOT
11MO
11NGO
12O
12YO
11O
11PALI BHA
16CHA
16DDA
18HA
17HA
16GHA
16JHA
16LLA
16NNA
17YA
16TTA
18HA
12HO SUNG
15TAM
12O
11RO
11SANSKRIT SHA
21SA
12O SUNG
14TAM
11THO SUNG
15TAM
12O
11WO
11YO
04NIGGAHITA
04SEMIVOWEL SIGN LO
19NYO
05IGN PALI VIRAMA
04TONE MAI CATAWA
13EK
13THO
14I
04VOWEL SIGN A
16A
16I
16M
16Y
15E
16I
15I
16I
15MAI KAN
20ON
15O
15U
16U
15Y
16Y
02RGE BLUE CIRCLE
11DIAMOND
11SQUARE
07ROWN CIRCLE
12SQUARE
06CIRCLE
06DOWN TACK
06GREEN CIRCLE
12SQUARE
06LEFT TRIANGLE OPERATOR
06ONE DOT OVER TWO DOTS PUNCTUATION
10RING OVER TWO RINGS PUNCTUATION
07RANGE CIRCLE
13DIAMOND
13SQUARE
06PURPLE CIRCLE
13SQUARE
06RED CIRCLE
10SQUARE
06TRIPLE VERTICAL BAR OPERATOR
07WO DOTS OVER ONE DOT PUNCTUATION
10RINGS OVER ONE RING PUNCTUATION
06UP TACK
06YELLOW CIRCLE
13SQUARE
05R THAN
11 OR EQUAL TO
03I SIGN
02ST QUARTER MOON
17 SYMBOL
18WITH FACE
02TIN CAPITAL LETTER A
22 WITH ACUTE
28BREVE
33 AND ACUTE
38DOT BELOW
38GRAVE
38HOOK ABOVE
38TILDE
28CARON
29IRCUMFLEX
38 AND ACUTE
43DOT BELOW
43GRAVE
43HOOK ABOVE
43TILDE
28DIAERESIS
37 AND MACRON
29OT ABOVE
37 AND MACRON
32BELOW
30UBLE GRAVE
28GRAVE
28HOOK ABOVE
28INVERTED BREVE
28MACRON
28OGONEK
28RING ABOVE
38 AND ACUTE
33BELOW
28STROKE
28TILDE
22A
22E
23 WITH ACUTE
29MACRON
22FRICAN D
22LPHA
22NGLICANA W
22O
22U
22V
23 WITH HORIZONTAL BAR
22Y
21B
22 WITH DOT ABOVE
32BELOW
28FLOURISH
28HOOK
28LINE BELOW
28STROKE
28TOPBAR
22ETA
22ROKEN L
21C
22 WITH ACUTE
28BAR
28CARON
29EDILLA
35 AND ACUTE
29IRCUMFLEX
28DOT ABOVE
28HOOK
28PALATAL HOOK
28STROKE
22HI
22LOSED INSULAR G
22ON
22UATRILLO
30 WITH COMMA
21D
22 WITH CARON
29EDILLA
29IRCUMFLEX BELOW
28DOT ABOVE
32BELOW
28HOOK
28LINE BELOW
28SHORT STROKE OVERLAY
29MALL LETTER Z
42 WITH CARON
29TROKE
28TOPBAR
22Z
23 WITH CARON
21E
22 WITH ACUTE
28BREVE
28CARON
29EDILLA
35 AND BREVE
29IRCUMFLEX
38 AND ACUTE
43DOT BELOW
43GRAVE
43HOOK ABOVE
43TILDE
39BELOW
28DIAERESIS
29OT ABOVE
32BELOW
30UBLE GRAVE
28GRAVE
28HOOK ABOVE
28INVERTED BREVE
28MACRON
34 AND ACUTE
39GRAVE
28OGONEK
28STROKE
28TILDE
33 BELOW
22GYPTOLOGICAL AIN
36LEF
22NG
22SH
22T
23H
22ZH
24 REVERSED
25WITH CARON
21F
22 WITH DOT ABOVE
28HOOK
28STROKE
21G
22 WITH ACUTE
28BREVE
28CARON
29EDILLA
29IRCUMFLEX
28DOT ABOVE
28HOOK
28MACRON
28OBLIQUE STROKE
28STROKE
22AMMA
22HA
22LOTTAL A
29I
29STOP
29U
21H
22 WITH BREVE BELOW
28CARON
29EDILLA
29IRCUMFLEX
28DESCENDER
29IAERESIS
29OT ABOVE
32BELOW
28HOOK
28STROKE
22ALF H
22ENG
22WAIR
21I
22 WITH ACUTE
28BREVE
28CARON
29IRCUMFLEX
28DIAERESIS
37 AND ACUTE
29OT ABOVE
32BELOW
30UBLE GRAVE
28GRAVE
28HOOK ABOVE
28INVERTED BREVE
28MACRON
28OGONEK
28STROKE
28TILDE
33 BELOW
22NSULAR D
29F
29G
29R
29S
29T
22OTA
22S
21J
22 WITH CIRCUMFLEX
29ROSSED-TAIL
28STROKE
21K
22 WITH ACUTE
28CARON
29EDILLA
28DESCENDER
29IAGONAL STROKE
29OT BELOW
28HOOK
28LINE BELOW
28OBLIQUE STROKE
28STROKE
34 AND DIAGONAL STROKE
21L
22 WITH ACUTE
28BAR
29ELT
28CARON
29EDILLA
29IRCUMFLEX BELOW
28DOT BELOW
37 AND MACRON
30UBLE BAR
28HIGH STROKE
28LINE BELOW
28MIDDLE DOT
35TILDE
28SMALL LETTER J
29TROKE
22J
21M
22 WITH ACUTE
28DOT ABOVE
32BELOW
28HOOK
22IDDLE SCOTS S
27-WELSH LL
34V
21N
22 WITH ACUTE
28CARON
29EDILLA
29IRCUMFLEX BELOW
28DESCENDER
29OT ABOVE
32BELOW
28GRAVE
28LEFT HOOK
29INE BELOW
29ONG RIGHT LEG
28OBLIQUE STROKE
28SMALL LETTER J
28TILDE
22J
21O
22 WITH ACUTE
28BREVE
28CARON
29IRCUMFLEX
38 AND ACUTE
43DOT BELOW
43GRAVE
43HOOK ABOVE
43TILDE
28DIAERESIS
37 AND MACRON
29OT ABOVE
37 AND MACRON
32BELOW
30UBLE ACUTE
35GRAVE
28GRAVE
28HOOK ABOVE
30RN
32 AND ACUTE
37DOT BELOW
37GRAVE
37HOOK ABOVE
37TILDE
28INVERTED BREVE
28LONG STROKE OVERLAY
30OP
28MACRON
34 AND ACUTE
39GRAVE
29IDDLE TILDE
28OGONEK
34 AND MACRON
28STROKE
34 AND ACUTE
28TILDE
33 AND ACUTE
38DIAERESIS
38MACRON
22I
22LD POLISH O
22MEGA
22O
22PEN E
26O
22U
21P
22 WITH ACUTE
28DOT ABOVE
28FLOURISH
28HOOK
28SQUIRREL TAIL
29TROKE
34 THROUGH DESCENDER
21Q
22 WITH DIAGONAL STROKE
28STROKE THROUGH DESCENDER
21R
22 ROTUNDA
23WITH ACUTE
28CARON
29EDILLA
28DOT ABOVE
32BELOW
37 AND MACRON
30UBLE GRAVE
28INVERTED BREVE
28LINE BELOW
28OBLIQUE STROKE
28STROKE
28TAIL
22EVERSED C WITH DOT
30E
30HALF H
30OPEN E
22UM ROTUNDA
21S
22 WITH ACUTE
33 AND DOT ABOVE
28CARON
33 AND DOT ABOVE
29EDILLA
29IRCUMFLEX
29OMMA BELOW
28DOT ABOVE
32BELOW
37 AND DOT ABOVE
28HOOK
28OBLIQUE STROKE
28SHORT STROKE OVERLAY
29WASH TAIL
22ALTILLO
22CHWA
23RIPT G
22HARP S
22IGMOID S
22MALL CAPITAL I
27Q WITH HOOK TAIL
21T
22 WITH CARON
29EDILLA
29IRCUMFLEX BELOW
29OMMA BELOW
28DIAGONAL STROKE
29OT ABOVE
32BELOW
28HOOK
28LINE BELOW
28RETROFLEX HOOK
28STROKE
22HORN
26 WITH STROKE
38 THROUGH DESCENDER
22ONE FIVE
26SIX
26TWO
22RESILLO
22URNED A
29LPHA
28H
28INSULAR G
28K
28L
28M
28T
28V
22Z
21U
22 BAR
23WITH ACUTE
28BREVE
28CARON
29IRCUMFLEX
38 BELOW
28DIAERESIS
37 AND ACUTE
42CARON
42GRAVE
42MACRON
38BELOW
29OT BELOW
30UBLE ACUTE
35GRAVE
28GRAVE
28HOOK ABOVE
30RN
32 AND ACUTE
37DOT BELOW
37GRAVE
37HOOK ABOVE
37TILDE
28INVERTED BREVE
28MACRON
34 AND DIAERESIS
28OGONEK
28RING ABOVE
28STROKE
28TILDE
33 AND ACUTE
34BELOW
22PSILON
21V
22 WITH DIAGONAL STROKE
29OT BELOW
28HOOK
28TILDE
22END
22ISIGOTHIC Z
22OLAPUK AE
29OE
29UE
22Y
21W
22 WITH ACUTE
28CIRCUMFLEX
28DIAERESIS
29OT ABOVE
32BELOW
28GRAVE
28HOOK
22YNN
21X
22 WITH DIAERESIS
29OT ABOVE
21Y
22 WITH ACUTE
28CIRCUMFLEX
28DIAERESIS
29OT ABOVE
32BELOW
28GRAVE
28HOOK
32 ABOVE
28LOOP
28MACRON
28STROKE
28TILDE
22OGH
21Z
22 WITH ACUTE
28CARON
29IRCUMFLEX
28DESCENDER
29OT ABOVE
32BELOW
28HOOK
28LINE BELOW
28PALATAL HOOK
28STROKE
29WASH TAIL
15IGATURE IJ
23OE
07ROSS
06EPIGRAPHIC LETTER ARCHAIC M
24I LONGA
25NVERTED M
24REVERSED F
33P
24SIDEWAYS I
06LETTER AIN
14LVEOLAR CLICK
13BIDENTAL PERCUSSIVE
15LABIAL CLICK
22PERCUSSIVE
13DENTAL CLICK
13GLOTTAL STOP
25 WITH STROKE
13INVERTED GLOTTAL STOP
34 WITH CURL
40STROKE
13LATERAL CLICK
13PHARYNGEAL VOICED FRICATIVE
13RETROFLEX CLICK
28 WITH RETROFLEX HOOK
15VERSED ESH LOOP
22GLOTTAL STOP WITH STROKE
13SINOLOGICAL DOT
14MALL CAPITAL A
28E
27B
28ARRED B
27C
27D
27E
28TH
28ZH
27F
27G
28 WITH HOOK
27H
27I
28NVERTED R
27J
27K
27L
28 WITH BELT
34STROKE
27M
27N
27O
28E
28PEN O
28U
27P
27Q
27R
28 WITH RIGHT LEG
28EVERSED N
36R
28UM
27S
27T
28URNED E
34G
34K
34M
34R
27U
27V
27W
27Y
27Z
14TRETCHED C
24 WITH CURL
13TWO WITH STROKE
13VOICED LARYNGEAL SPIRANT
13WYNN
13YR
06SMALL CAPITAL LETTER I WITH STROKE
27U WITH STROKE
12LETTER A
20 REVERSED-SCHWA
21WITH ACUTE
26BREVE
31 AND ACUTE
36DOT BELOW
36GRAVE
36HOOK ABOVE
36TILDE
26CARON
27IRCUMFLEX
36 AND ACUTE
41DOT BELOW
41GRAVE
41HOOK ABOVE
41TILDE
26DIAERESIS
35 AND MACRON
27OT ABOVE
35 AND MACRON
30BELOW
28UBLE GRAVE
26GRAVE
26HOOK ABOVE
26INVERTED BREVE
26MACRON
26OGONEK
26RETROFLEX HOOK
27IGHT HALF RING
28NG ABOVE
36 AND ACUTE
31BELOW
26STROKE
26TILDE
20A
20E
21 WITH ACUTE
27MACRON
20LPHA
24 WITH RETROFLEX HOOK
20NGLICANA W
20O
20U
20V
21 WITH HORIZONTAL BAR
20Y
19B
20 WITH DOT ABOVE
30BELOW
26FLOURISH
26HOOK
26LINE BELOW
26MIDDLE TILDE
26PALATAL HOOK
26STROKE
26TOPBAR
20ARRED ALPHA
26E
26O
21SELINE ESH
20ETA
20LACKLETTER E
31O
32 WITH STROKE
20OTTOM HALF O
20ROKEN L
19C
20 WITH ACUTE
26BAR
26CARON
27EDILLA
33 AND ACUTE
27IRCUMFLEX
27URL
26DOT ABOVE
26HOOK
26PALATAL HOOK
26RETROFLEX HOOK
26STROKE
20HI
22 WITH LOW LEFT SERIF
32RIGHT RING
20LOSED INSULAR G
26OMEGA
27PEN E
26REVERSED OPEN E
20ON
20UATRILLO
28 WITH COMMA
19D
20 WITH CARON
27EDILLA
27IRCUMFLEX BELOW
27URL
26DOT ABOVE
30BELOW
26HOOK
30 AND TAIL
26LINE BELOW
26MIDDLE TILDE
26PALATAL HOOK
26SHORT STROKE OVERLAY
27TROKE
26TAIL
27OPBAR
20B DIGRAPH
20ELTA
21ZH DIGRAPH
31 WITH PALATAL HOOK
37RETROFLEX HOOK
20OTLESS I
27J
28 WITH STROKE
40 AND HOOK
21UBLE R
27 WITH CROSSED-TAIL
26THORN
26WYNN
20UM
20Z
21 DIGRAPH
29 WITH CURL
35RETROFLEX HOOK
22WITH CARON
19E
20 WITH ACUTE
26BREVE
26CARON
27EDILLA
33 AND BREVE
27IRCUMFLEX
36 AND ACUTE
41DOT BELOW
41GRAVE
41HOOK ABOVE
41TILDE
37BELOW
26DIAERESIS
27OT ABOVE
30BELOW
28UBLE GRAVE
26FLOURISH
26GRAVE
26HOOK ABOVE
26INVERTED BREVE
26MACRON
32 AND ACUTE
37GRAVE
26NOTCH
26OGONEK
26RETROFLEX HOOK
26STROKE
26TILDE
31 BELOW
20GYPTOLOGICAL AIN
34LEF
20NG
22 WITH CROSSED-TAIL
28PALATAL HOOK
20SH
22 WITH CURL
28DOUBLE BAR
38 AND CURL
28PALATAL HOOK
28RETROFLEX HOOK
20T
21H
20ZH
22 REVERSED
23WITH CARON
29URL
28PALATAL HOOK
28RETROFLEX HOOK
28TAIL
19F
20 WITH DOT ABOVE
26HOOK
26MIDDLE TILDE
26PALATAL HOOK
26STROKE
20ENG DIGRAPH
31 WITH TRILL
19G
20 WITH ACUTE
26BREVE
26CARON
27EDILLA
27IRCUMFLEX
26DOT ABOVE
26HOOK
26MACRON
26OBLIQUE STROKE
26PALATAL HOOK
26STROKE
20AMMA
20HA
20LOTTAL A
27I
27STOP
27U
19H
20 WITH BREVE BELOW
26CARON
27EDILLA
27IRCUMFLEX
26DESCENDER
27IAERESIS
27OT ABOVE
30BELOW
26HOOK
26LINE BELOW
26PALATAL HOOK
26STROKE
20ALF H
20ENG
23 WITH HOOK
20V
19I
20 WITH ACUTE
26BREVE
26CARON
27IRCUMFLEX
26DIAERESIS
35 AND ACUTE
27OT BELOW
28UBLE GRAVE
26GRAVE
26HOOK ABOVE
26INVERTED BREVE
26MACRON
26OGONEK
26RETROFLEX HOOK
26STROKE
32 AND RETROFLEX HOOK
26TILDE
31 BELOW
20NSULAR D
27F
27G
27R
27S
27T
21VERTED ALPHA
28OE
20OTA
23 WITH STROKE
22IFIED E
20S
19J
20 WITH CARON
27IRCUMFLEX
27ROSSED-TAIL
26STROKE
19K
20 WITH ACUTE
26CARON
27EDILLA
26DESCENDER
27IAGONAL STROKE
27OT BELOW
26HOOK
26LINE BELOW
26OBLIQUE STROKE
26PALATAL HOOK
26STROKE
32 AND DIAGONAL STROKE
20RA
19L
20 WITH ACUTE
26BAR
27ELT
30 AND PALATAL HOOK
26CARON
27EDILLA
27IRCUMFLEX BELOW
27URL
26DOT BELOW
35 AND MACRON
28UBLE BAR
33MIDDLE TILDE
26FISHHOOK
26HIGH STROKE
26INVERTED LAZY S
26LINE BELOW
26MIDDLE DOT
33RING
33TILDE
26PALATAL HOOK
26RETROFLEX HOOK
40 AND BELT
26STROKE
20AMBDA WITH STROKE
20ENIS F
21ZH
23 WITH RETROFLEX HOOK
20J
20ONG S
25 WITH DIAGONAL STROKE
32OT ABOVE
31HIGH STROKE
20S DIGRAPH
20UM
20Z DIGRAPH
19M
20 WITH ACUTE
26CROSSED-TAIL
26DOT ABOVE
30BELOW
26HOOK
26MIDDLE TILDE
26PALATAL HOOK
20IDDLE SCOTS S
25-WELSH LL
32V
20UM
19N
20 PRECEDED BY APOSTROPHE
21WITH ACUTE
26CARON
27EDILLA
27IRCUMFLEX BELOW
27ROSSED-TAIL
27URL
26DESCENDER
27OT ABOVE
30BELOW
26GRAVE
26LEFT HOOK
27INE BELOW
27ONG RIGHT LEG
26MIDDLE TILDE
26OBLIQUE STROKE
26PALATAL HOOK
26RETROFLEX HOOK
26TILDE
20J
20UM
19O
20 WITH ACUTE
26BREVE
26CARON
27IRCUMFLEX
36 AND ACUTE
41DOT BELOW
41GRAVE
41HOOK ABOVE
41TILDE
26DIAERESIS
35 AND MACRON
27OT ABOVE
35 AND MACRON
30BELOW
28UBLE ACUTE
33GRAVE
26GRAVE
26HOOK ABOVE
28RN
30 AND ACUTE
35DOT BELOW
35GRAVE
35HOOK ABOVE
35TILDE
26INVERTED BREVE
26LONG STROKE OVERLAY
28OP
28W RING INSIDE
26MACRON
32 AND ACUTE
37GRAVE
26OGONEK
32 AND MACRON
26RETROFLEX HOOK
26STROKE
32 AND ACUTE
26TILDE
31 AND ACUTE
36DIAERESIS
36MACRON
20I
20LD POLISH O
20MEGA
20O
20PEN E
25 WITH RETROFLEX HOOK
24O
25 WITH RETROFLEX HOOK
31STROKE
25E
20U
19P
20 WITH ACUTE
26DOT ABOVE
26FLOURISH
26HOOK
26MIDDLE TILDE
26PALATAL HOOK
26SQUIRREL TAIL
27TROKE
32 THROUGH DESCENDER
20HI
19Q
20 WITH DIAGONAL STROKE
26HOOK
30 TAIL
26STROKE THROUGH DESCENDER
20P DIGRAPH
19R
20 ROTUNDA
21WITH ACUTE
26CARON
27EDILLA
27ROSSED-TAIL
26DOT ABOVE
30BELOW
35 AND MACRON
28UBLE GRAVE
26FISHHOOK
34 AND MIDDLE TILDE
39PALATAL HOOK
26INVERTED BREVE
26LINE BELOW
27ONG LEG
26MIDDLE TILDE
26OBLIQUE STROKE
26PALATAL HOOK
26STROKE
26TAIL
25OUT HANDLE
20AMS HORN
20EVERSED C
29 WITH DOT
28E
29NG
28HALF H
28K
28OPEN E
34 WITH HOOK
40RETROFLEX HOOK
28R WITH FISHHOOK
28SCRIPT G
20UM
22 ROTUNDA
19S
20 WITH ACUTE
31 AND DOT ABOVE
26CARON
31 AND DOT ABOVE
27EDILLA
27IRCUMFLEX
27OMMA BELOW
27URL
26DOT ABOVE
30BELOW
35 AND DOT ABOVE
26HOOK
26MIDDLE TILDE
26OBLIQUE STROKE
26PALATAL HOOK
26SHORT STROKE OVERLAY
27WASH TAIL
20AKHA YAT
21LTILLO
20CHWA
24 WITH HOOK
30RETROFLEX HOOK
21RIPT G
27 WITH CROSSED-TAIL
26R
27 WITH RING
20HARP S
20IDEWAYS DIAERESIZED U
28O
29 WITH STROKE
29PEN O
28TURNED M
28U
21GMOID S
20QUAT REVERSED ESH
20TIRRUP R
19T
20 WITH CARON
27EDILLA
27IRCUMFLEX BELOW
27OMMA BELOW
27URL
26DIAERESIS
29GONAL STROKE
27OT ABOVE
30BELOW
26HOOK
30 AND RETROFLEX HOOK
26LINE BELOW
26MIDDLE TILDE
26PALATAL HOOK
26RETROFLEX HOOK
26STROKE
20AILLESS PHI
20C DIGRAPH WITH CURL
20ESH DIGRAPH
31 WITH PALATAL HOOK
37RETROFLEX HOOK
20H WITH STRIKETHROUGH
21ORN
24 WITH STROKE
36 THROUGH DESCENDER
20ONE FIVE
24SIX
24TWO
21P HALF O
20RESILLO
20S DIGRAPH
29 WITH RETROFLEX HOOK
20UM
21RNED A
27E
27LPHA
26DELTA
26E
26G
26H
27 WITH FISHHOOK
41 AND TAIL
26I
27NSULAR G
26K
26L
26M
27 WITH LONG LEG
26O OPEN-O
34 WITH STROKE
27E
28 WITH HORIZONTAL STROKE
34STROKE
27PEN E
26R
27 WITH HOOK
33LONG LEG
41 AND RETROFLEX HOOK
33MIDDLE TILDE
33PALATAL HOOK
33TAIL
26T
27 WITH CURL
26UI
26V
26W
26Y
27 WITH BELT
20Z
19U
20 BAR
24 WITH SHORT RIGHT LEG
21WITH ACUTE
26BREVE
26CARON
27IRCUMFLEX
36 BELOW
26DIAERESIS
35 AND ACUTE
40CARON
40GRAVE
40MACRON
36BELOW
27OT BELOW
28UBLE ACUTE
33GRAVE
26GRAVE
26HOOK ABOVE
28RN
30 AND ACUTE
35DOT BELOW
35GRAVE
35HOOK ABOVE
35TILDE
26INVERTED BREVE
26LEFT HOOK
26MACRON
32 AND DIAERESIS
26OGONEK
26RETROFLEX HOOK
27ING ABOVE
26SHORT RIGHT LEG
27TROKE
26TILDE
31 AND ACUTE
32BELOW
20E
20I
20M
20O
20PSILON
26 WITH STROKE
19V
20 WITH CURL
26DIAGONAL STROKE
27OT BELOW
26HOOK
26PALATAL HOOK
26RIGHT HOOK
26TILDE
20END
20ISIGOTHIC Z
20OLAPUK AE
27OE
27UE
20Y
19W
20 WITH ACUTE
26CIRCUMFLEX
26DIAERESIS
27OT ABOVE
30BELOW
26GRAVE
26HOOK
26RING ABOVE
19X
20 WITH DIAERESIS
27OT ABOVE
26LONG LEFT LEG
39 AND LOW RIGHT RING
40WITH SERIF
28W RIGHT RING
26PALATAL HOOK
19Y
20 WITH ACUTE
26CIRCUMFLEX
26DIAERESIS
27OT ABOVE
30BELOW
26GRAVE
26HOOK
30 ABOVE
26LOOP
26MACRON
26RING ABOVE
26SHORT RIGHT LEG
27TROKE
26TILDE
20OGH
19Z
20 WITH ACUTE
26CARON
27IRCUMFLEX
27URL
26DESCENDER
27OT ABOVE
30BELOW
26HOOK
26LINE BELOW
26MIDDLE TILDE
26PALATAL HOOK
26RETROFLEX HOOK
26STROKE
27WASH TAIL
13IGATURE FF
23I
23L
22I
22L
21IJ
21LONG S T
21OE
21ST
07UBSCRIPT SMALL LETTER A
29E
29H
29I
29J
29K
29L
29M
29N
29O
29P
29R
29S
30CHWA
29T
29U
29V
29X
01EAF FLUTTERING IN WIND
04Y GREEN
02DGER
02FT AND LOWER AND RIGHT TRIANGULAR THREE QUARTERS BLOCK
15ONE EIGHTH BLOCK
09RIGHT DOUBLE TURNSTILE
15TACK
16RIANGULAR HALF BLOCK
09UPPER AND RIGHT TRIANGULAR THREE QUARTERS BLOCK
15ONE EIGHTH BLOCK
07GER BUBBLE
08LE BRACKET
18 WITH DOT
06RC LESS-THAN BRACKET
07ROW WITH CIRCLED PLUS
16SMALL CIRCLE
05BARB DOWN RIGHT BARB DOWN HARPOON
26UP HARPOON
10UP RIGHT BARB DOWN HARPOON
24UP HARPOON
06LACK LENTICULAR BRACKET
11TORTOISE SHELL BRACKET
05CEILING
06LOSED ENTRY
06ORNER BRACKET
06URLY BRACKET
18 LOWER HOOK
19MIDDLE PIECE
19UPPER HOOK
05DOTTED SUBSTITUTION BRACKET
07UBLE ANGLE BRACKET
12PARENTHESIS
12QUOTATION MARK
12WIGGLY FENCE
05FISH TAIL
07VE EIGHTHS BLOCK
06LOOR
05HALF BLACK CIRCLE"

/-- Names from `LEFT HALF BLACK STAR` on. -/
def namesE : String :=
"00LEFT HALF BLACK STAR
12OCK
10CIRCLE
16 WITH DOT
22FOUR DOTS
22THREE DOTS
23WO DOTS
10FOLDER
10INVERSE MEDIUM SHADE AND RIGHT HALF BLOCK
10MEDIUM SHADE
10RUNNING MAN
07ND TELEPHONE RECEIVER
05LOW PARAPHRASE BRACKET
06UGGAGE
05MULTIMAP
05NORMAL FACTOR SEMIDIRECT PRODUCT
05ONE EIGHTH BLOCK
09QUARTER BLOCK
06UTER JOIN
05PARENTHESIS
16 EXTENSION
17LOWER HOOK
17UPPER HOOK
05RAISED OMISSION BRACKET
06IGHT ARROW
16 THROUGH SMALL CIRCLE
17WITH DOUBLE VERTICAL STROKE
22STROKE
22VERTICAL STROKE
11BLACK ARROW
11DOUBLE ARROW
23 WITH STROKE
29VERTICAL STROKE
11OPEN-HEADED ARROW
11SANS-SERIF ARROW
11TRIANGLE-HEADED ARROW
11WAVE ARROW
12HITE ARROW
05S-SHAPED BAG DELIMITER
06EMIDIRECT PRODUCT
07VEN EIGHTHS BLOCK
06IDEWAYS U BRACKET
07NGLE QUOTATION MARK
06PEECH BUBBLE
06QUARE BRACKET
19 EXTENSION
20LOWER CORNER
20UPPER CORNER
20WITH DOUBLE STROKE
25QUILL
25STROKE
25TICK IN BOTTOM CORNER
33TOP CORNER
25UNDERBAR
06UBSTITUTION BRACKET
05TACK
06HIRD WHITE RIGHT POINTING INDEX
07OUGHT BUBBLE
07REE EIGHTHS BLOCK
11QUARTERS BLOCK
06ORTOISE SHELL BRACKET
06RANSPOSITION BRACKET
07IANGLE BESIDE VERTICAL BAR
11ULAR ONE QUARTER BLOCK
05VERTICAL BAR WITH QUILL
15OX LINE
05WHITE CORNER BRACKET
12URLY BRACKET
11LENTICULAR BRACKET
11PARENTHESIS
11SQUARE BRACKET
11TORTOISE SHELL BRACKET
06IGGLY FENCE
06RITING HAND
04-FACING ARMENIAN ETERNITY SIGN
12FIST
12SVASTI SIGN
23 WITH DOTS
05HANDED INTERLACED PENTAGRAM
05POINTING ANGLE BRACKET
14CURVED ANGLE BRACKET
14DOUBLE ANGLE QUOTATION MARK
14MAGNIFYING GLASS
05SHADED WHITE RIGHTWARDS ARROW
06IDE ARC ANTICLOCKWISE ARROW
05TO-RIGHT EMBEDDING
14ISOLATE
14MARK
14OVERRIDE
04WARDS ARROW
15 ABOVE ALMOST EQUAL TO
22REVERSE ALMOST EQUAL TO
30TILDE OPERATOR
22SHORT RIGHTWARDS ARROW
22TILDE OPERATOR
17ND UPPER AND LOWER ONE EIGHTH BLOCK
16FROM BAR
24 TO BLACK DIAMOND
16OVER RIGHTWARDS ARROW
16THROUGH LESS-THAN
24SUBSET
24X
17O BAR
22 OVER RIGHTWARDS ARROW TO BAR
20LACK DIAMOND
16WITH DOTTED STEM
23UBLE VERTICAL STROKE
21EQUILATERAL ARROWHEAD
21HOOK
21LARGE TRIANGLE ARROWHEAD
22OOP
21MEDIUM TRIANGLE ARROWHEAD
21NOTCHED TAIL
21PLUS BELOW
21SMALL EQUILATERAL ARROWHEAD
27TRIANGLE ARROWHEAD
22TROKE
21TAIL
25 WITH DOUBLE VERTICAL STROKE
31VERTICAL STROKE
22IP DOWNWARDS
25UPWARDS
21VERTICAL STROKE
15-TAIL
10BACK-TILTED SHADOWED WHITE ARROW
11LACK ARROW
16CIRCLED WHITE ARROW
11OTTOM-SHADED WHITE ARROW
10COMPRESSED ARROW
10DASHED ARROW
11OUBLE ARROW
22 FROM BAR
23WITH STROKE
28VERTICAL STROKE
22-TAIL
17DASH ARROW
10FINGER-POST ARROW
11RONT-TILTED SHADOWED WHITE ARROW
10HAND
12RPOON OVER RIGHTWARDS HARPOON
18WITH BARB DOWN ABOVE RIGHTWARDS HARPOON WITH BARB DOWN
33BELOW LONG DASH
33FROM BAR
33TO BAR
32WARDS
28UP ABOVE LEFTWARDS HARPOON WITH BARB DOWN
38ONG DASH
37RIGHTWARDS HARPOON WITH BARB UP
31FROM BAR
31TO BAR
30WARDS
11EAVY ARROW
16COMPRESSED ARROW
10LEFT-SHADED WHITE ARROW
10OPEN-HEADED ARROW
10PAIRED ARROWS
10QUADRUPLE ARROW
10RIGHT-SHADED WHITE ARROW
11OCKET
10SANS-SERIF ARROW
11QUARED ARROW
13IGGLE ARROW
10TOP SHADED WHITE ARROW
11RIANGLE ARROWHEAD
18-HEADED ARROW
31 OVER RIGHTWARDS TRIANGLE-HEADED ARROW
32TO BAR
32WITH BOLD SHAFT
37DOUBLE HORIZONTAL STROKE
44VERTICAL STROKE
37HEAVY SHAFT
37LONG TIP DOWNWARDS
46UPWARDS
37MEDIUM SHAFT
37NARROW SHAFT
37VERY HEAVY SHAFT
26DASHED ARROW
26PAIRED ARROWS
13PLE ARROW
17DASH ARROW
11WO HEADED ARROW
13-HEADED ARROW FROM BAR
27WITH DOUBLE VERTICAL STROKE
32TAIL
36 WITH DOUBLE VERTICAL STROKE
42VERTICAL STROKE
33RIANGLE ARROWHEADS
32VERTICAL STROKE
21TRIPLE DASH ARROW
10WAVE ARROW
11HITE ARROW
21 WITHIN TRIANGLE ARROWHEAD
02G
02MON
02O
03PARD
02PCHA CONSONANT SIGN K
23ANG
22L
22M
22N
23YIN-DO
22P
22R
22T
07DIGIT EIGHT
13FIVE
14OUR
13NINE
13ONE
13SEVEN
14IX
13THREE
14WO
13ZERO
07LETTER A
14BA
15LA
14CA
15HA
14DA
15DA
15ZA
14FA
15LA
14GA
15LA
14HA
15LA
14JA
14KA
15HA
15LA
14LA
14MA
15LA
14NA
15GA
15YA
14PA
15HA
15LA
14RA
14SA
15HA
14TA
15HA
15SA
16HA
15TA
16HA
14VA
14WA
14YA
07PUNCTUATION CER-WA
19NYET THYOOM TA-ROL
19TA-ROL
20SHOOK
25 CER-WA
07SIGN NUKTA
12RAN
08UBJOINED LETTER RA
24YA
07VOWEL SIGN AA
18E
18I
18O
19O
18U
19U
02SS-THAN ABOVE DOUBLE-LINE EQUAL ABOVE GREATER-THAN
16GREATER-THAN ABOVE DOUBLE-LINE EQUAL
16LEFTWARDS ARROW
16SIMILAR ABOVE GREATER-THAN
24OR EQUAL
17LANTED EQUAL ABOVE GREATER-THAN ABOVE SLANTED EQUAL
11ND NOT APPROXIMATE
14SINGLE-LINE NOT EQUAL TO
10BUT NOT EQUAL TO
21IVALENT TO
10CLOSED BY CURVE
25 ABOVE SLANTED EQUAL
10EQUAL TO OR GREATER-THAN
10OR APPROXIMATE
13EQUAL TO
16IVALENT TO
13GREATER-THAN
13SLANTED EQUAL TO
29 WITH DOT ABOVE
44 RIGHT
39INSIDE
11VER EQUAL TO
10SIGN
10WITH CIRCLE INSIDE
15DOT
15QUESTION MARK ABOVE
02VEL SLIDER
01F
01IBRA
02GATURE OPEN ET ORNAMENT
03HT CHECK MARK
06EIGHT SPOKED ASTERISK
06FIVE POINTED BLACK STAR
11SPOKED ASTERISK
07OUR POINTED BLACK CUSP
25STAR
06GREEK CROSS
06LEFT TORTOISE SHELL BRACKET ORNAMENT
06RAIL
07IGHT TORTOISE SHELL BRACKET ORNAMENT
06SALTIRE
07HADE
07IX SPOKED ASTERISK
06THREE POINTED BLACK STAR
07WELVE POINTED BLACK STAR
06VERTICAL BAR
06WHITE SQUARE
05NING
09 MOOD
14 BUBBLE
02MBU DIGIT EIGHT
12FIVE
13OUR
12NINE
12ONE
12SEVEN
13IX
12THREE
13WO
12ZERO
06EXCLAMATION MARK
06LETTER BA
14HA
13CA
14HA
13DA
14HA
13GA
14HA
14YAN
13HA
13JA
14HA
13KA
14HA
13LA
13MA
13NA
14GA
13PA
14HA
13RA
13SA
14HA
14SA
13TA
14HA
14RA
13WA
13YA
15N
06QUESTION MARK
06SIGN KEMPHRENG
11LOO
11MUKPHRENG
11SA-I
07MALL LETTER ANUSVARA
19KA
19LA
19MA
19NA
20GA
19PA
19RA
19TA
07UBJOINED LETTER RA
23WA
23YA
06VOWEL SIGN A
18I
18U
17E
18E
17I
17O
18O
17U
11-CARRIER LETTER
03ITED LIABILITY SIGN
02NE FEED
05INTEGRATION NOT INCLUDING THE POLE
17WITH RECTANGULAR PATH AROUND POLE
22SEMICIRCULAR PATH AROUND POLE
05SEPARATOR
05TABULATION
15 SET
04AR A SIGN A028B
15100-102
1620B
1631C
15301
172
173
174
175
176
177
178
179A
18B
18C
1610
171
172
173A
18B
18C
174
175
176
177
178
179
1620
171
172
173
174
175
176
177
178
179
1630
171
172
173
174
175
176
177
178
179
1640
171
172
173
174
175
176
177
178
179
1650
171
172
173
174
175
176
177
178
179
1660
171
172
173
174
175
176
177
178
179
1670
171
15400-VAS
171-VAS
172-VAS
173-VAS
174-VAS
175-VAS
176-VAS
177-VAS
178-VAS
179-VAS
1610-VAS
171-VAS
172-VAS
173-VAS
174-VAS
175-VAS
176-VAS
177-VAS
178-VAS
15501
172
173
174
175
176
178
179
1610
171
172
173
175
176
1620
171
173
174
175
176
177
178
179
1630
171
172
174
175
176
177
178
179
1640
171
172
175
177
178
179
1650
171
172
173
174
175
176
177
179
1663
174
175
176
178
179
1670
171
172
173
174
175
176
177
178
179
1680
171
172
173
174
175
176
177
178
179
1691
172
174
175
176
178
15600
171
172
173
174
176
178
179
1610
171
172
173
174
175
176
177
178
179
1620
171
172
173
174
176
177
178
179
1634
177
178
1640
172
173
174
175
176
178
179
1651
172
173
174
175
176
177
178
179
1660
171
172
173
174
15701 A
172 B
173 D
174 E
175 F
176 H
177 J
178 K
179 L
18-2 L2
193 L3
194 L4
196 L6
1610 W
171 X
172 Y
173 OMEGA
174 ABB
175 BB
177 DD
1626 EYYY
1632 JE
15800
171
172
173
174
175
176
177
15B001
182
183
184
185
186
187
188
189
1710
181
183
186
187
1720
181
19F
19M
182
19F
19M
183
19M
184
186
187
188
189
1730
181
184
187
188
189
1740
181
184
185
186
187
188
189
1750
181
183
184
185
186
187
188
189
1760
181
185
186
187
189
1770
183
184
186
187
188
189
1780
181
182
185
186
187
16118
1720
182
183
1731A
19B
1764
1771
1780
188
1791
07B IDEOGRAM B100 MAN
212 WOMAN
214 DEER
215 EQUID
22F MARE
22M STALLION
216F EWE
22M RAM
217F SHE-GOAT
22M HE-GOAT
218F SOW
22M BOAR
219F COW
22M BULL
2020 WHEAT
211 BARLEY
212 OLIVE
213 SPICE
215 CYPERUS
2030 OIL
211 WINE
212
2040 BRONZE
211 GOLD
212
215 WOOL
216
2050
211 HORN
212
213
214
217
218
219 CLOTH
2060
211
212 GARMENT
213 ARMOUR
214
215
216
217
218
219
2070
211
212
213 MONTH
214
216 TREE
217
218
219
2080
211
212
213
214
215
219
2090
211 HELMET
19220 FOOTSTOOL
215 BATHTUB
2030 SPEAR
211 ARROW
212
213 SWORD
214
216
2040 WHEELED CHARIOT
211 CHARIOT
212 CHARIOT FRAME
213 WHEEL
215
216
218
219
2051
212
213
214 DART
215
216
217
218
219
18VESSEL B155
26200
281
282
283
284
285
286
287
288
289
2710
281
282
283
284
285
286
287
288
289
2721
282
286
287
288
289
2750
26305
09MONOGRAM B127 KAPO
218 KANAKO
2033 AREPA
215 MERI
2056 TURO2
19247 DIPTE
09SYLLABLE B001 DA
212 RO
213 PA
214 TE
215 TO
216 NA
217 DI
218 A
219 SE
2010 U
211 PO
212 SO
213 ME
214 DO
215 MO
216 QA
217 ZA
2020 ZO
211 QI
213 MU
214 NE
215 A2
216 RU
217 RE
218 I
219 PU2
2030 NI
211 SA
212 QO
213 RA3
216 JO
217 TI
218 E
219 PI
2040 WI
211 SI
212 WO
213 A3
214 KE
215 DE
216 JE
218 NWA
2050 PU
211 DU
212 NO
213 RI
214 WA
215 NU
217 JA
218 SU
219 TA
2060 RA
211 O
212 PTE
215 JU
216 TA2
217 KI
218 RO2
219 TU
2070 KO
211 DWE
212 PE
213 MI
214 ZE
215 WE
216 RA2
217 KA
218 QE
2080 MA
211 KU
215 AU
217 TWE
2090 DWO
211 TWO
11MBOL B018
199
1822
1834
1847
199
1856
1863
194
1879
1882
193
196
199
03K SYMBOL
04ED PAPERCLIPS
02ON FACE
02PS
04TICK
02RA SIGN
02SU LETTER A
13E
12BA
12CA
13HA
12DA
13ZA
12E
13U
12FA
12GA
13HA
12HA
13HA
12I
12JA
12KA
13HA
12LA
12MA
12NA
13GA
12O
13E
12PA
13HA
12SA
13HA
12TA
13HA
13ONE MYA BO
21CYA
21JEU
21NA
21TI
17NA PO
13SA
14HA
12U
13E
13H
12WA
12XA
12YA
13HA
12ZA
13HA
05PUNCTUATION COMMA
17FULL STOP
02VRE TOURNOIS SIGN
02ZARD
01LAMA
01OBSTER
02CK
04 WITH INK PEN
04ING-SHIFT ONE
14ZERO
02GICAL AND
11 WITH DOT ABOVE
19UBLE OVERBAR
24UNDERBAR
17HORIZONTAL DASH
17MIDDLE STEM
17UNDERBAR
08OR
10 OVERLAPPING LOGICAL AND
11WITH DOT ABOVE
18UBLE OVERBAR
23UNDERBAR
16HORIZONTAL DASH
16MIDDLE STEM
02LLIPOP
02NG DASH FROM LEFT MEMBER OF DOUBLE VERTICAL
06IVISION
06RUM
05LEFT RIGHT ARROW
16DOUBLE ARROW
10TACK
09WARDS ARROW
20 FROM BAR
15DOUBLE ARROW
27 FROM BAR
15SQUIGGLE ARROW
05RIGHT TACK
10WARDS ARROW
21 FROM BAR
16DOUBLE ARROW
28 FROM BAR
16SQUIGGLE ARROW
02TION BOTTLE
03US
02UDLY CRYING FACE
02VE HOTEL
05LETTER
02W ASTERISK
04BATTERY
05RIGHTNESS SYMBOL
04DOUBLE PRIME QUOTATION MARK
04KAVYKA
10 WITH DOT
04LINE
03ER BLADE SCISSORS
06FIVE EIGHTHS BLOCK
06HALF BLOCK
11CIRCLE
11INVERSE WHITE CIRCLE
11MEDIUM SHADE
06LEFT BALLPOINT PEN
12LOCK DIAGONAL LOWER MIDDLE LEFT TO LOWER CENTRE
53RIGHT
26UPPER CENTRE TO LOWER MIDDLE RIGHT
48RIGHT
42UPPER MIDDLE RIGHT
32LEFT TO LOWER CENTRE
46MIDDLE RIGHT
40UPPER MIDDLE RIGHT
32MIDDLE LEFT TO LOWER CENTRE
53MIDDLE RIGHT
53RIGHT
11CRAYON
11FOUNTAIN PEN
11PAINTBRUSH
12ENCIL
11QUADRANT CIRCULAR ARC
11SEMICIRCULAR ANTICLOCKWISE ARROW
11TRIANGLE
17ULAR MEDIUM SHADE
06ONE EIGHTH BLOCK
10QUARTER BLOCK
06RIGHT BLOCK DIAGONAL LOWER CENTRE TO LOWER MIDDLE RIGHT
43UPPER MIDDLE RIGHT
49RIGHT
33LEFT TO LOWER MIDDLE RIGHT
41UPPER CENTRE
47MIDDLE RIGHT
33MIDDLE LEFT TO UPPER CENTRE
54MIDDLE RIGHT
54RIGHT
27UPPER MIDDLE LEFT TO UPPER CENTRE
54RIGHT
12CORNER WITH DOT
12DROP-SHADOWED WHITE SQUARE
12PENCIL
12QUADRANT CIRCULAR ARC
12SEMICIRCULAR CLOCKWISE ARROW
13HADOWED WHITE CIRCLE
27SQUARE
12TRIANGLE
18ULAR MEDIUM SHADE
06SEVEN EIGHTHS BLOCK
06THREE EIGHTHS BLOCK
12QUARTERS BLOCK
07RIANGULAR ONE QUARTER BLOCK
02ZENGE
07 DIVIDED BY HORIZONTAL RULE
01RE
02I
02M
02O
01UGGAGE
02NGS
01YCIAN LETTER A
15N
14B
15H
14D
14E
15N
14G
14H
14I
14J
14K
15K
14L
14M
15M
14N
15N
14P
14Q
14R
14S
14T
15H
15T
14U
14W
14X
14Z
02DIAN LETTER A
15N
14B
14C
14D
14E
15N
14F
14G
14I
14K
14L
15Y
14M
14N
15N
14O
14Q
14R
14S
15S
14T
15T
14U
14V
14Y
07TRIANGULAR MARK
02ING FACE
00MACRON
02GE
03IC WAND
03NET
02HAJANI ABBREVIATION SIGN
09LETTER A
16BA
17HA
16CA
17HA
16DA
17DA
18HA
17HA
16E
16GA
17HA
16HA
16I
16JA
17HA
16KA
17HA
16LA
16MA
16NA
17NA
17YA
16O
16PA
17HA
16RA
17RA
16SA
16TA
17HA
17TA
18HA
16U
16VA
10IGATURE SHRI
09SECTION MARK
10IGN NUKTA
03JONG TILE AUTUMN
13BACK
15MBOO
13CHRYSANTHEMUM
13EAST WIND
14IGHT OF BAMBOOS
22CHARACTERS
23IRCLES
13FIVE OF BAMBOOS
21CHARACTERS
22IRCLES
14OUR OF BAMBOOS
21CHARACTERS
22IRCLES
13GREEN DRAGON
13JOKER
13NINE OF BAMBOOS
21CHARACTERS
22IRCLES
14ORTH WIND
13ONE OF BAMBOOS
20CHARACTERS
21IRCLES
14RCHID
13PLUM
13RED DRAGON
13SEVEN OF BAMBOOS
22CHARACTERS
23IRCLES
14IX OF BAMBOOS
20CHARACTERS
21IRCLES
14OUTH WIND
14PRING
14UMMER
13THREE OF BAMBOOS
22CHARACTERS
23IRCLES
14WO OF BAMBOOS
20CHARACTERS
21IRCLES
13WEST WIND
14HITE DRAGON
14INTER
02KASAR ANGKA
08END OF SECTION
08LETTER A
15BA
15CA
15DA
15GA
15JA
15KA
15LA
15MA
15NA
16GA
16YA
15PA
15RA
15SA
15TA
15VA
15YA
08PASSIMBANG
08VOWEL SIGN E
19I
19O
19U
02LAYALAM AU LENGTH MARK
10DATE MARK
11IGIT EIGHT
16FIVE
17OUR
16NINE
16ONE
16SEVEN
17IX
16THREE
17WO
16ZERO
10FRACTION ONE EIGHTH
23FIFTH
24ORTIETH
23HALF
23ONE-HUNDRED-AND-SIXTIETH
23QUARTER
23SIXTEENTH
23TENTH
24WENTIETH
19THREE EIGHTIETHS
25QUARTERS
25SIXTEENTHS
25TWENTIETHS
10LETTER A
18A
18I
18RCHAIC II
18U
17BA
18HA
17CA
18HA
19ILLU K
24L
25L
26L
24M
24N
25N
24RR
24Y
17DA
18DA
19HA
18HA
18OT REPH
17E
18E
17GA
18HA
17HA
17I
18I
17JA
18HA
17KA
18HA
17LA
18LA
19LA
17MA
17NA
18GA
18NA
19NA
18YA
17O
18O
17PA
18HA
17RA
18RA
17SA
18HA
18SA
17TA
18HA
18TA
19HA
19TA
17U
18U
17VA
18EDIC ANUSVARA
18OCALIC L
26L
25R
26R
17YA
10NUMBER ONE HUNDRED
21THOUSAND
17TEN
10SIGN ANUSVARA
16VAGRAHA
15CANDRABINDU
16IRCULAR VIRAMA
16OMBINING ANUSVARA ABOVE
15PARA
15VERTICAL BAR VIRAMA
16IRAMA
17SARGA
10VOWEL SIGN AA
22I
22U
21E
22E
21I
22I
21O
22O
21U
22U
21VOCALIC L
30L
29R
30R
03E AND FEMALE SIGN
05SIGN
05WITH STROKE AND MALE AND FEMALE SIGN
17SIGN
03TESE CROSS
02MMOTH
02N
03 AND WOMAN HOLDING HANDS
04DANCING
04IN BUSINESS SUIT LEVITATING
07TUXEDO
04WITH GUA PI MAO
09TURBAN
03AT SIGN
03DAIC AFFRICATION MARK
08GEMINATION MARK
08LETTER AB
16D
16G
16H
16IN
16K
17SA
16L
16M
16N
16P
16Q
16R
16S
17H
17Z
16T
17T
16Z
15DUSHENNA
15HALQA
15IN
16T
15KAD
15USHENNA
08PUNCTUATION
08VOCALIZATION MARK
03GO
03ICHAEAN ABBREVIATION MARK ABOVE
29BELOW
11LETTER AAYIN
19LEPH
19YIN
18BETH
19HETH
18DALETH
19HAMEDH
18FE
18GHIMEL
19IMEL
18HE
20TH
18JAYIN
19HAYIN
18KAPH
19HAPH
18LAMEDH
18MEM
18NUN
18PE
18QHOPH
19OPH
18RESH
18SADHE
20MEKH
19HIN
19SHIN
18TAW
19ETH
19HAMEDH
18WAW
18XAPH
19OPH
18YODH
18ZAYIN
19HAYIN
11NUMBER FIVE
18ONE
21 HUNDRED
18TEN
19WENTY
11PUNCTUATION DOT
26 WITHIN DOT
25UBLE DOT WITHIN DOT
23FLEURON
23LINE FILLER
23STAR
23TWO DOTS
11SIGN UD
03S SHOE
03TELPIECE CLOCK
03UAL WHEELCHAIR
02P SYMBOL FOR LIGHTHOUSE
03LE LEAF
02RCHEN HEAD MARK
08LETTER -A
15A
15BA
15CA
16HA
15DA
16ZA
15GA
15HA
15JA
15KA
16HA
15LA
15MA
15NA
16GA
16YA
15PA
16HA
15RA
15SA
16HA
15TA
16HA
16SA
17HA
15WA
15YA
15ZA
16HA
08MARK SHAD
08SIGN ANUSVARA
13CANDRABINDU
09UBJOINED LETTER A
25BA
25CA
26HA
25DA
26ZA
25GA
25HA
25JA
25KA
26HA
25LA
25MA
25NA
26GA
26YA
25PA
26HA
25RA
25SA
26HA
25TA
26HA
26SA
27HA
25WA
25YA
25ZA
26HA
08VOWEL SIGN AA
19E
19I
19O
19U
03RIAGE SYMBOL
03TIAL ARTS UNIFORM
02SARAM GONDI DIGIT EIGHT
20FIVE
21OUR
20NINE
20ONE
20SEVEN
21IX
20THREE
21WO
20ZERO
14LETTER A
22A
22I
22U
21BA
22HA
21CA
22HA
21DA
22DA
23HA
22HA
21E
21GA
22HA
21HA
21I
22I
21JA
22HA
22NYA
21KA
22HA
22SSA
21LA
22LA
21MA
21NA
22GA
22NA
22YA
21O
21PA
22HA
21RA
21SA
22HA
22SA
21TA
22HA
22RA
22TA
23HA
21U
22U
21VA
21YA
14RA-KARA
15EPHA
14SIGN ANUSVARA
19CANDRA
19HALANTA
19NUKTA
19VISARGA
14VIRAMA
15OWEL SIGN AA
26I
26U
25E
25I
26I
25O
25U
26U
25VOCALIC R
03CULINE ORDINAL INDICATOR
03K WORK SYMBOL
03U MARK
02TE DRINK
03HEMATICAL BOLD CAPITAL A
27LPHA
26B
27ETA
26C
27HI
26D
27ELTA
27IGAMMA
26E
27PSILON
27TA
26F
26G
27AMMA
26H
26I
27OTA
26J
26K
27APPA
26L
27AMDA
26M
27U
26N
27U
26O
27MEGA
28ICRON
26P
27HI
27I
27SI
26Q
26R
27HO
26S
27IGMA
26T
27AU
27HETA
31 SYMBOL
26U
27PSILON
26V
26W
26X
27I
26Y
26Z
27ETA
18DIGIT EIGHT
24FIVE
25OUR
24NINE
24ONE
24SEVEN
25IX
24THREE
25WO
24ZERO
18EPSILON SYMBOL
18FRAKTUR CAPITAL A
34B
34C
34D
34E
34F
34G
34H
34I
34J
34K
34L
34M
34N
34O
34P
34Q
34R
34S
34T
34U
34V
34W
34X
34Y
34Z
26SMALL A
32B
32C
32D
32E
32F
32G
32H
32I
32J
32K
32L
32M
32N
32O
32P
32Q
32R
32S
32T
32U
32V
32W
32X
32Y
32Z
18ITALIC CAPITAL A
34LPHA
33B
34ETA
33C
34HI
33D
34ELTA
33E
34PSILON
34TA
33F
33G
34AMMA
33H
33I
34OTA
33J
33K
34APPA
33L
34AMDA
33M
34U
33N
34U
33O
34MEGA
35ICRON
33P
34HI
34I
34SI
33Q
33R
34HO
33S
34IGMA
33T
34AU
34HETA
38 SYMBOL
33U
34PSILON
33V
33W
33X
34I
33Y
33Z
34ETA
25EPSILON SYMBOL
25KAPPA SYMBOL
25NABLA
25PARTIAL DIFFERENTIAL
26HI SYMBOL
26I SYMBOL
25RHO SYMBOL
25SMALL A
32LPHA
31B
32ETA
31C
32HI
31D
32ELTA
31E
32PSILON
32TA
31F
32INAL SIGMA
31G
32AMMA
31H
31I
32OTA
31J
31K
32APPA
31L
32AMDA
31M
32U
31N
32U
31O
32MEGA
33ICRON
31P
32HI
32I
32SI
31Q
31R
32HO
31S
32IGMA
31T
32AU
32HETA
31U
32PSILON
31V
31W
31X
32I
31Y
31Z
32ETA
25THETA SYMBOL
18KAPPA SYMBOL
18NABLA
18PARTIAL DIFFERENTIAL
19HI SYMBOL
19I SYMBOL
18RHO SYMBOL
18SCRIPT CAPITAL A
33B
33C
33D
33E
33F
33G
33H
33I
33J
33K
33L
33M
33N
33O
33P
33Q
33R
33S
33T
33U
33V
33W
33X
33Y
33Z
25SMALL A
31B
31C
31D
31E
31F
31G
31H
31I
31J
31K
31L
31M
31N
31O
31P
31Q
31R
31S
31T
31U
31V
31W
31X
31Y
31Z
19MALL A
25LPHA
24B
25ETA
24C
25HI
24D
25ELTA
25IGAMMA
24E
25PSILON
25TA
24F
25INAL SIGMA
24G
25AMMA
24H
24I
25OTA
24J
24K
25APPA
24L
25AMDA
24M
25U
24N
25U
24O
25MEGA
26ICRON
24P
25HI
25I
25SI
24Q
24R
25HO
24S
25IGMA
24T
25AU
25HETA
24U
25PSILON
24V
24W
24X
25I
24Y
24Z
25ETA
18THETA SYMBOL
13DOUBLE-STRUCK CAPITAL A
35B
35D
35E
35F
35G
35I
35J
35K
35L
35M
35O
35S
35T
35U
35V
35W
35X
35Y
27DIGIT EIGHT
33FIVE
34OUR
33NINE
33ONE
33SEVEN
34IX
33THREE
34WO
33ZERO
27SMALL A
33B
33C
33D
33E
33F
33G
33H
33I
33J
33K
33L
33M
33N
33O
33P
33Q
33R
33S
33T
33U
33V
33W
33X
33Y
33Z
13FALLING DIAGONAL
14RAKTUR CAPITAL A
29B
29D
29E
29F
29G
29J
29K
29L
29M
29N
29O
29P
29Q
29S
29T
29U
29V
29W
29X
29Y
21SMALL A
27B
27C
27D
27E
27F
27G
27H
27I
27J
27K
27L
27M
27N
27O
27P
27Q
27R
27S
27T
27U
27V
27W
27X
27Y
27Z
13ITALIC CAPITAL A
29LPHA
28B
29ETA
28C
29HI
28D
29ELTA
28E
29PSILON
29TA
28F
28G
29AMMA
28H
28I
29OTA
28J
28K
29APPA
28L
29AMDA
28M
29U
28N
29U
28O
29MEGA
30ICRON
28P
29HI
29I
29SI
28Q
28R
29HO
28S
29IGMA
28T
29AU
29HETA
33 SYMBOL
28U
29PSILON
28V
28W
28X
29I
28Y
28Z
29ETA
20EPSILON SYMBOL
20KAPPA SYMBOL
20NABLA
20PARTIAL DIFFERENTIAL
21HI SYMBOL
21I SYMBOL
20RHO SYMBOL
20SMALL A
27LPHA
26B
27ETA
26C
27HI
26D
27ELTA
27OTLESS I
34J
26E
27PSILON
27TA
26F
27INAL SIGMA
26G
27AMMA
26I
27OTA
26J
26K
27APPA
26L
27AMDA
26M
27U
26N
27U
26O
27MEGA
28ICRON
26P
27HI
27I
27SI
26Q
26R
27HO
26S
27IGMA
26T
27AU
27HETA
26U
27PSILON
26V
26W
26X
27I
26Y
26Z
27ETA
20THETA SYMBOL
13LEFT ANGLE BRACKET
18DOUBLE ANGLE BRACKET
18FLATTENED PARENTHESIS
18WHITE SQUARE BRACKET
24TORTOISE SHELL BRACKET
13MONOSPACE CAPITAL A
31B
31C
31D
31E
31F
31G
31H
31I
31J
31K
31L
31M
31N
31O
31P
31Q
31R
31S
31T
31U
31V
31W
31X
31Y
31Z
23DIGIT EIGHT
29FIVE
30OUR
29NINE
29ONE
29SEVEN
30IX
29THREE
30WO
29ZERO
23SMALL A
29B
29C
29D
29E
29F
29G
29H
29I
29J
29K
29L
29M
29N
29O
29P
29Q
29R
29S
29T
29U
29V
29W
29X
29Y
29Z
13RIGHT ANGLE BRACKET
19DOUBLE ANGLE BRACKET
19FLATTENED PARENTHESIS
19WHITE SQUARE BRACKET
25TORTOISE SHELL BRACKET
15SING DIAGONAL
13SANS-SERIF BOLD CAPITAL A
38LPHA
37B
38ETA
37C
38HI
37D
38ELTA
37E
38PSILON
38TA
37F
37G
38AMMA
37H
37I
38OTA
37J
37K
38APPA
37L
38AMDA
37M
38U
37N
38U
37O
38MEGA
39ICRON
37P
38HI
38I
38SI
37Q
37R
38HO
37S
38IGMA
37T
38AU
38HETA
42 SYMBOL
37U
38PSILON
37V
37W
37X
38I
37Y
37Z
38ETA
29DIGIT EIGHT
35FIVE
36OUR
35NINE
35ONE
35SEVEN
36IX
35THREE
36WO
35ZERO
29EPSILON SYMBOL
29ITALIC CAPITAL A
45LPHA
44B
45ETA
44C
45HI
44D
45ELTA
44E
45PSILON
45TA
44F
44G
45AMMA
44H
44I
45OTA
44J
44K
45APPA
44L
45AMDA
44M
45U
44N
45U
44O
45MEGA
46ICRON
44P
45HI
45I
45SI
44Q
44R
45HO
44S
45IGMA
44T
45AU
45HETA
49 SYMBOL
44U
45PSILON
44V
44W
44X
45I
44Y
44Z
45ETA
36EPSILON SYMBOL
36KAPPA SYMBOL
36NABLA
36PARTIAL DIFFERENTIAL
37HI SYMBOL
37I SYMBOL
36RHO SYMBOL
36SMALL A
43LPHA
42B
43ETA
42C
43HI
42D
43ELTA
42E
43PSILON
43TA
42F
43INAL SIGMA
42G
43AMMA
42H
42I
43OTA
42J
42K
43APPA
42L
43AMDA
42M
43U
42N
43U
42O
43MEGA
44ICRON
42P
43HI
43I
43SI
42Q
42R
43HO
42S
43IGMA
42T
43AU
43HETA
42U
43PSILON
42V
42W
42X
43I
42Y
42Z
43ETA
36THETA SYMBOL
29KAPPA SYMBOL
29NABLA
29PARTIAL DIFFERENTIAL
30HI SYMBOL
30I SYMBOL
29RHO SYMBOL
29SMALL A
36LPHA
35B
36ETA
35C
36HI
35D
36ELTA
35E
36PSILON
36TA
35F
36INAL SIGMA
35G
36AMMA
35H
35I
36OTA
35J
35K
36APPA
35L
36AMDA
35M
36U
35N
36U
35O
36MEGA
37ICRON
35P
36HI
36I
36SI
35Q
35R
36HO
35S
36IGMA
35T
36AU
36HETA
35U
36PSILON
35V
35W
35X
36I
35Y
35Z
36ETA
29THETA SYMBOL
24CAPITAL A
32B
32C
32D
32E
32F
32G
32H
32I
32J
32K
32L
32M
32N
32O
32P
32Q
32R
32S
32T
32U
32V
32W
32X
32Y
32Z
24DIGIT EIGHT
30FIVE
31OUR
30NINE
30ONE
30SEVEN
31IX
30THREE
31WO
30ZERO
24ITALIC CAPITAL A
39B
39C
39D
39E
39F
39G
39H
39I
39J
39K
39L
39M
39N
39O
39P
39Q
39R
39S
39T
39U
39V
39W
39X
39Y
39Z
31SMALL A
37B
37C
37D
37E
37F
37G
37H
37I
37J
37K
37L
37M
37N
37O
37P
37Q
37R
37S
37T
37U
37V
37W
37X
37Y
37Z
24SMALL A
30B
30C
30D
30E
30F
30G
30H
30I
30J
30K
30L
30M
30N
30O
30P
30Q
30R
30S
30T
30U
30V
30W
30X
30Y
30Z
14CRIPT CAPITAL A
28C
28D
28G
28J
28K
28N
28O
28P
28Q
28S
28T
28U
28V
28W
28X
28Y
28Z
20SMALL A
26B
26C
26D
26F
26H
26I
26J
26K
26L
26M
26N
26P
26Q
26R
26S
26T
26U
26V
26W
26X
26Y
26Z
02XIMIZE
02YAN NUMERAL EIGHT
19EEN
15LEVEN
14FIFTEEN
16VE
15OUR
18TEEN
14NINE
18TEEN
14ONE
14SEVEN
19TEEN
15IX
17TEEN
14TEN
15HIRTEEN
16REE
15WELVE
16O
14ZERO
01EASURED ANGLE
14 OPENING LEFT
15WITH OPEN ARM ENDING IN ARROW POINTING DOWN AND LEFT
63RIGHT
54LEFT AND DOWN
63UP
54RIGHT AND DOWN
64UP
54UP AND LEFT
61RIGHT
09BY
09RIGHT ANGLE WITH DOT
03T ON BONE
02CHANICAL ARM
11LEG
02DEFAIDRIN CAPITAL LETTER A
28I
28TIU
27B
27C
27D
27E
27F
27G
27H
28P
27I
27J
27K
28P
27L
27M
27N
28G
28Y
27O
28E
27P
27Q
27R
27S
27T
27U
27V
27W
27X
27Y
28U
27Z
13OMMA
12DIGIT EIGHT
18FIVE
19OUR
18NINE
18ONE
21 ALTERNATE FORM
18SEVEN
19IX
18THREE
23 ALTERNATE FORM
19WO
21 ALTERNATE FORM
18ZERO
12EXCLAMATION OH
12FULL STOP
12NUMBER EIGHTEEN
20LEVEN
19FIFTEEN
20OURTEEN
19NINETEEN
19SEVENTEEN
20IXTEEN
19TEN
20HIRTEEN
20WELVE
12SMALL LETTER A
26I
26TIU
25B
25C
25D
25E
25F
25G
25H
26P
25I
25J
25K
26P
25L
25M
25N
26G
26Y
25O
26E
25P
25Q
25R
25S
25T
25U
25V
25W
25X
25Y
26U
25Z
13YMBOL AIVA
03IEVAL COMMA
09EXCLAMATION MARK
09QUESTION MARK
04UM BLACK CIRCLE
08OLD WHITE CIRCLE
07EIGHT POINTED BLACK STAR
13SPOKED ASTERISK
07FIVE SPOKED ASTERISK
08LATTENED LEFT PARENTHESIS ORNAMENT
17RIGHT PARENTHESIS ORNAMENT
08OUR POINTED BLACK STAR
20PINWHEEL STAR
07GREEK CROSS
07LEFT CURLY BRACKET ORNAMENT
12PARENTHESIS ORNAMENT
11-POINTING ANGLE BRACKET ORNAMENT
07MATHEMATICAL SPACE
07RIGHT CURLY BRACKET ORNAMENT
13PARENTHESIS ORNAMENT
12-POINTING ANGLE BRACKET ORNAMENT
07SALTIRE
08HADE
08IX POINTED BLACK STAR
11SPOKED ASTERISK
08MALL WHITE CIRCLE
07THREE POINTED BLACK STAR
21PINWHEEL STAR
07VERTICAL BAR
07WHITE CIRCLE
13SQUARE
02ETEI MAYEK AHANG KHUDAM
14NJI
14PUN IYEK
13CHEIKHAN
19EI
13DIGIT EIGHT
19FIVE
20OUR
19NINE
19ONE
19SEVEN
20IX
19THREE
20WO
19ZERO
13LETTER ATIYA
20BA
21HAM
20CHA
22IL
20DDA
22HA
21HOU
21IL
20E
20GHOU
21OK
20HUK
20I
21 LONSUM
20JHAM
21IL
20KHOU
21OK
23 LONSUM
20LAI
23 LONSUM
20MIT
23 LONSUM
20NA
22 LONSUM
21GOU
24 LONSUM
21NA
21YA
20O
20PA
22 LONSUM
21HAM
20RAI
20SAM
21HA
21SA
20THOU
21IL
23 LONSUM
21TA
22HA
20UN
20WAI
20YANG
14UM IYEK
13SYLLABLE REPETITION MARK
13VIRAMA
14OWEL SIGN AAI
26U
25NAP
25U
24CHEINAP
24II
25NAP
24NUNG
24ONAP
24SOUNAP
24UNAP
25U
24VISARGA
24YENAP
13WORD REPETITION MARK
02LON
03TING FACE
02MO
02NDE KIKAKUI COMBINING NUMBER HUNDRED THOUSANDS
38S
31MILLIONS
31TEENS
33N THOUSANDS
34S
32HOUSANDS
14DIGIT EIGHT
20FIVE
21OUR
20NINE
20ONE
20SEVEN
21IX
20THREE
21WO
14SYLLABLE M001 KI
262 KA
263 KU
264 WI
265 WA
266 WU
267 MIN
268 MAN
269 MUN
2510 BI
261 BA
262 BU
263 I
264 A
265 U
266 DI
267 DA
268 DU
269 SI
2520 SA
261 SU
262 TI
263 TA
264 TU
265 LI
266 LA
267 LU
268 JI
269 JA
2530 JU
261 YI
262 YA
263 YU
264 FI
265 FA
266 FU
267 NIN
268 NAN
269 NUN
2540 HEE
261 HA
262 HOO
263 NGGA
264 KPEE
265 WO
266 HUAN
267 MBEE
268 KO
269 WVA
2550 PU
261 PE
262 HEN
263 HIN
264 LOO
265 TE
266 GBA
267 NGON
268 NYAN
269 MEN
2560 NYON
261 WVI
262 MBA
263 JO
264 NDO
265 KEE
266 PO
267 NDOO
268 PI
269 TO
2570 GBO
261 GBOO
262 MBE
263 LE
264 KPU
265 FE
266 KOO
267 VO
268 FEE
269 SO
2580 YE
261 PEE
262 NGGU
263 HEEI
264 LEE
265 VE
266 LONG NGGE
267 HUN
268 FO
269 DEE
2590 NGGI
261 TEE
262 KPA
263 GBEE
264 MON
265 KE
266 HE
267 BE
268 NYEN
269 PA
24100 E
261 FAN
262 POO
263 BOO
264 TOO
265 LONG MBOO
266 LONG NGGOO
267 GBE
268 KPE
269 YEE
2510 LONG LE
261 GA
262 KPOO
263 JE
264 WOO
265 NGGEE
266 SE
267 NEN
268 WE
269 NDE
2520 NGGO
261 YO
262 MBU
263 NDI
264 GBI
265 NDU
266 WEE
267 NGGUA
268 HOOU
269 NDA
2530 HAN
261 IN
262 KPI
263 FOO
264 NJOO
265 IN
266 SOO
267 EI
268 BO
269 WVE
2540 HO
261 YOO
262 LONG MBO
263 WEI
264 VOO
265 MBI
266 NGGE
267 O
268 GBU
269 NJEE
2550 BEE
261 VU
262 NJA
263 LO
264 MUAN
265 GI
266 NGGOO
267 JEE
268 KPO
269 NGGAA
2560 JOO
261 LONG MBE
262 SEE
263 EE
264 NYIN
265 OO
266 GUEI
267 GUAN
268 GU
269 NON
2570 NYUN
261 RA
262 MBOO
263 VEE
264 MBO
265 LONG JO
266 HI
267 NGUAN
268 EN
269 KUA
2580 DOO
261 DO
262 VI
263 LONG NGGO
264 NGEN
265 VA
266 HU
267 MBUU
268 MBEE
269 MUEN
2590 GEE
261 NDEE
262 NJU
263 HON
264 WUI
265 AN
266 SIA
267 FUA
03ORAH WITH NINE BRANCHES
03S SYMBOL
02RCURY
03OITIC CURSIVE FRACTION EIGHT TWELFTHS
27LEVEN TWELFTHS
26FIVE TWELFTHS
27OUR TWELFTHS
26NINE TWELFTHS
26ONE HALF
30TWELFTH
26SEVEN TWELFTHS
27IX TWELFTHS
26TEN TWELFTHS
27HREE TWELFTHS
27WO TWELFTHS
17LETTER A
25RCHAIC SA
24BA
24DA
24E
24HHA
24I
24KA
25HA
24LA
24MA
24NA
25E
24O
24PA
24QA
24RA
24SA
25E
24TA
25E
25O
24WA
24YA
18OGOGRAM IMN
26RMT
17NUMBER EIGHT
29 HUNDRED
37 THOUSAND
30THOUSAND
29Y THOUSAND
24FIFTY
29 THOUSAND
26VE
28 HUNDRED
36 THOUSAND
29THOUSAND
25ORTY
29 THOUSAND
26UR
28 HUNDRED
36 THOUSAND
29THOUSAND
24NINE
28 HUNDRED
36 THOUSAND
29THOUSAND
28TY THOUSAND
24ONE
27 HUNDRED
35 THOUSAND
28THOUSAND
24SEVEN
29 HUNDRED
37 THOUSAND
30THOUSAND
29TY
31 THOUSAND
25IX
27 HUNDRED
35 THOUSAND
28THOUSAND
27TY
29 THOUSAND
24TEN
27 THOUSAND
25HIRTY
30 THOUSAND
26REE
29 HUNDRED
37 THOUSAND
30THOUSAND
25WENTY
30 THOUSAND
26O
27 HUNDRED
35 THOUSAND
28THOUSAND
09HIEROGLYPHIC LETTER A
29BA
31-2
29DA
29E
29HHA
29I
29KA
30HA
29LA
29MA
29NA
31-2
30E
31-2
29O
29PA
29QA
29RA
31-2
29SA
31-2
30E
29TA
31-2
30E
31-2
30O
29WA
29YA
22SYMBOL VIDJ
33-2
03PERSON
02SSAGE WAITING
02TRICAL BREVE
09LONG OVER SHORT
19TWO SHORTS
09PENTASEME
09SHORT OVER LONG
09TETRASEME
10RISEME
10WO SHORTS JOINED
20OVER LONG
04O
01IAO LETTER AH
13RCHAIC MA
20NA
21GA
20ZZA
12BA
13RI
12DA
13DA
13LHA
15YA
13ZA
14HA
14YI
14ZA
12FA
12GA
13HA
14HA
12HA
13HA
12KA
12LA
13HA
14YA
13YA
12MA
13HA
12NA
14SALIZATION
13GA
14HA
13HA
13NA
14HA
13YA
14HA
12PA
13LA
12QA
13GA
12REFORMED TONE-1
262
264
265
266
268
22SHA
13TE
12SA
13HA
13SA
13YI
12TA
13E
13LHA
15YA
13ONE-2
173
174
175
176
177
178
13SA
14E
14HA
14SA
13TA
12VA
13FA
12WA
12XA
12YI DZHA
15KA
15NNA
15PA
15TA
16SA
17HA
16TA
12ZA
13HA
13SA
14HA
13ZA
14SA
15YA
14YA
05SIGN ASPIRATION
10CONSONANT MODIFIER BAR
10REFORMED ASPIRATION
19VOICING
05TONE ABOVE
10BELOW
10RIGHT
10TOP RIGHT
05VOWEL SIGN A
17A
17E
18E
17HH
17I
17N
18G
17U
16E
17A
17I
17N
18G
17R
18R
16I
17A
18N
19G
17E
17G
17I
17NG
17O
18NG
17U
16N
17G
16O
17ER
18Y
17G
17O
17U
16ROUNDED ER
26R
16U
17A
18N
19G
17EI
17I
17NG
17OG
17U
16VW
16W
17O
16Y
17I
17UI
02CR DASH SYMBOL
05ON US SYMBOL
04O SIGN
05BE
05PHONE
05SCOPE
02DDLE DOT
07THIRD WHITE RIGHT POINTING INDEX
03LINE HORIZONTAL ELLIPSIS
02LITARY HELMET
09MEDAL
03KY WAY
03L SIGN
02NIBUS
04DISC
04MIZE
03US SIGN
10 IN TRIANGLE
11WITH COMMA ABOVE
16DOT BELOW
16FALLING DOTS
16RISING DOTS
06TILDE
05-OR-PLUS SIGN
03Y
02RROR
06 BALL
01MSP
01OBILE PHONE
12 OFF
13WITH RIGHTWARDS ARROW AT LEFT
02DELS
04RN PENTATHLON
03I ABBREVIATION SIGN
05DANDA
06IGIT EIGHT
11FIVE
12OUR
11NINE
11ONE
11SEVEN
12IX
11THREE
12WO
11ZERO
06OUBLE DANDA
05LETTER A
13A
13I
13U
12BA
13HA
12CA
13HA
12DA
13DA
14HA
13HA
12E
12GA
13HA
12HA
12I
13I
12JA
13HA
12KA
13HA
12LA
13LA
12MA
12NA
13GA
13NA
13YA
12O
12PA
13HA
12RA
12SA
13HA
13SA
12TA
13HA
13TA
14HA
12U
13U
12VA
13OCALIC L
21L
20R
21R
12YA
05SIGN ANUSVARA
11RDHACANDRA
10HUVA
10VIRAMA
12SARGA
05VOWEL SIGN AA
17I
17U
16E
16I
17I
16O
16U
17U
16VOCALIC L
25L
24R
25R
04FIER BREVE WITH INVERTED BREVE
09LETTER ACUTE ACCENT
17LVEOLAR CLICK
17POSTROPHE
16BEGIN HIGH TONE
22LOW TONE
17ILABIAL CLICK
16CAPITAL A
25E
24B
25ARRED B
24C
24D
24E
24F
24G
24H
25 WITH STROKE
24I
24J
24K
24L
24M
24N
24O
25U
24P
24Q
24R
25EVERSED E
33N
24T
24U
24V
24W
17ENTRED LEFT HALF RING
24RIGHT HALF RING
17HINESE TONE YANG PING
34QU
34RU
34SHANG
30IN PING
33QU
33RU
33SHANG
17IRCUMFLEX ACCENT
17OLON
17ROSS ACCENT
17YRILLIC EN
25HARD SIGN
25SOFT SIGN
16DENTAL CLICK
17OT HORIZONTAL BAR
20SLASH
20VERTICAL BAR
18UBLE APOSTROPHE
23PRIME
18WN ARROWHEAD
21TACK
16END HIGH TONE
20LOW TONE
17XTRA-HIGH DOTTED LEFT-STEM TONE BAR
34TONE BAR
27LEFT-STEM TONE BAR
27TONE BAR
22LOW DOTTED LEFT-STEM TONE BAR
33TONE BAR
26LEFT-STEM TONE BAR
26TONE BAR
16GEORGIAN NAR
17LOTTAL STOP
28 WITH STROKE
17RAVE ACCENT
16HALF TRIANGULAR COLON
17IGH DOTTED LEFT-STEM TONE BAR
28TONE BAR
21LEFT-STEM TONE BAR
21TONE BAR
16LATERAL CLICK
17EFT ARROWHEAD
21HALF RING
21TACK
17OW ACUTE ACCENT
20CIRCUMFLEX ACCENT
20DOTTED LEFT-STEM TONE BAR
27TONE BAR
22WN ARROWHEAD
20GRAVE ACCENT
20INVERTED EXCLAMATION MARK
20LEFT ARROW
30HEAD
24-STEM TONE BAR
20MACRON
20RIGHT ARROWHEAD
22NG
20TILDE
21ONE BAR
20UP ARROWHEAD
20VERTICAL LINE
19ER RIGHT CORNER ANGLE
16MACRON
17ID DOTTED LEFT-STEM TONE BAR
27TONE BAR
20LEFT-STEM TONE BAR
20TONE BAR
19DLE DOUBLE ACUTE ACCENT
30GRAVE ACCENT
23GRAVE ACCENT
18NUS SIGN
16OPEN SHELF
16PLUS SIGN
17RIME
16RAISED COLON
23DOWN ARROW
23EXCLAMATION MARK
23INVERTED EXCLAMATION MARK
23UP ARROW
17ETROFLEX CLICK WITH RETROFLEX HOOK
18VERSED COMMA
25GLOTTAL STOP
37 WITH STROKE
17HOTIC HOOK
17IGHT ARROWHEAD
22HALF RING
22TACK
16SHELF
18ORT EQUALS SIGN
17MALL A
23E
23IN
23LPHA
22B
23 WITH HOOK
23ARRED O
23ETA
23OTTOM HALF O
22C
23 WITH CURL
23APITAL AA
30B
30G
31 WITH HOOK
30H
30I
31 WITH STROKE
31NVERTED R
30L
31 WITH BELT
30N
30OE
30R
30U
30Y
23HI
23LOSED OMEGA
29REVERSED OPEN E
22D
23 WITH HOOK
33 AND TAIL
29TAIL
23ELTA
24ZH DIGRAPH
23OTLESS J WITH STROKE
43 AND HOOK
23Z DIGRAPH
32 WITH CURL
38RETROFLEX HOOK
22E
23NG
23SH
23TH
23ZH
22F
23ENG DIGRAPH
22G
23 WITH HOOK
23AMMA
23REEK GAMMA
28PHI
22H
23 WITH HOOK
29STROKE
23ENG
26 WITH HOOK
22I WITH STROKE
23OTA
22J
23 WITH CROSSED-TAIL
22K
22L
23 WITH BELT
29INVERTED LAZY S
29MIDDLE TILDE
29PALATAL HOOK
29RETROFLEX HOOK
43 AND BELT
23EZH
26 WITH RETROFLEX HOOK
23IGATURE OE
23S DIGRAPH
23Z DIGRAPH
22M
23 WITH HOOK
22N WITH LEFT HOOK
29RETROFLEX HOOK
22O
23 WITH STROKE
23PEN E
27O
22P
23HI
22Q
22R
23 WITH FISHHOOK
29TAIL
23AMS HORN
23EVERSED E
31GLOTTAL STOP
31OPEN E
22S
23 WITH CURL
29HOOK
23CHWA
24RIPT G
23IDEWAYS U
22T
23 WITH PALATAL HOOK
29RETROFLEX HOOK
23C DIGRAPH WITH CURL
23ESH DIGRAPH
23HETA
23OP HALF O
23S DIGRAPH
32 WITH RETROFLEX HOOK
23URNED A
30E
30LPHA
29H
29I
29M
30 WITH LONG LEG
29OPEN E
29R
30 WITH HOOK
36LONG LEG
44 AND RETROFLEX HOOK
29V
29W
29Y
30 WITH BELT
22U
23 BAR
24WITH LEFT HOOK
23PSILON
22V
23 WITH HOOK
29RIGHT HOOK
22W
22X
22Y
22Z
23 WITH CURL
29RETROFLEX HOOK
17TRESS AND HIGH TONE
27LOW TONE
17UPERSCRIPT HALF TRIANGULAR COLON
28TRIANGULAR COLON
16TRIANGULAR COLON
17URNED COMMA
16UNASPIRATED
17P ARROWHEAD
19TACK
17S
16VERTICAL LINE
17OICING
16YANG DEPARTING TONE MARK
17IN DEPARTING TONE MARK
03ULO TWO SUM
02NEY BAG
06WITH WINGS
05-MOUTH FACE
03GOLIAN BIRGA
15 WITH DOUBLE ORNAMENT
21ORNAMENT
10COLON
12MMA
10DIGIT EIGHT
16FIVE
17OUR
16NINE
16ONE
16SEVEN
17IX
16THREE
17WO
16ZERO
11OUBLE BIRGA WITH ORNAMENT
10ELLIPSIS
10FOUR DOTS
11REE VARIATION SELECTOR FOUR
34ONE
34THREE
35WO
11ULL STOP
10INVERTED BIRGA
24 WITH DOUBLE ORNAMENT
10LETTER A
18LI GALI A
27H
27NUSVARA ONE
26BALUDA
26CA
26DA
28GALGA
28MARU
27DA
26HALF U
31YA
26I
27NVERTED UBADAMA
26KA
26NGA
27NA
26PA
27HA
26SSA
26TA
27HREE BALUDA
27TA
28HA
26UBADAMA
26VISARGA ONE
26ZA
27HA
18NG
17BA
17CHA
20 WITH TWO DOTS
19I
17DA
17E
18E
17FA
17GA
17HAA
17I
17JA
17KA
18HA
17LA
18HA
17MA
19NCHU ALI GALI BHA
33CA
34YA
33DDHA
34HA
33GHA
33JHA
33LHA
33NGA
33SSA
33TA
34TA
33ZA
34HA
24FA
24I
24KA
24RA
24ZHA
17NA
17O
18E
17PA
17QA
17RA
17SA
18HA
18IBE ANG
22CHA
22DA
22E
22FA
22GA
24A
22HA
24A
22I
23Y
22JA
22KA
22PA
22RAA
22SHA
22TA
23SA
22U
23E
22ZA
23HA
17TA
18ODO ALI GALI TA
31ZHA
23NG
22BA
22CHA
22DA
23ZA
22E
22GA
24A
22HAA
22I
22JA
23IA
22KA
22LONG VOWEL SIGN
22MA
22NIA
22O
23E
22PA
22QA
22TA
23SA
22U
23E
22WA
22YA
18SA
17U
18E
17WA
17YA
17ZA
18HI
18RA
10MANCHU COMMA
17FULL STOP
10NIRUGU
10ROTATED BIRGA
23 WITH DOUBLE ORNAMENT
29ORNAMENT
10SIBE SYLLABLE BOUNDARY MARKER
11WIRL BIRGA
21 WITH DOUBLE ORNAMENT
27ORNAMENT
10TODO SOFT HYPHEN
11RIPLE BIRGA WITH ORNAMENT
11URNED SWIRL BIRGA WITH DOUBLE ORNAMENT
10VOWEL SEPARATOR
03KEY
06 FACE
03OGRAM FOR EARTH
13YANG
14IN
04RAIL
04STABLE SYMBOL
02OD BUBBLE
03N CAKE
05VIEWING CEREMONY
02SQUE
05ITO
02THER CHRISTMAS
03OR BOAT
06SCOOTER
05IZED WHEELCHAIR
05WAY
02UNT FUJI
05AIN
08 BICYCLIST
09CABLEWAY
09RAILWAY
03SE
05 FACE
06TRAP
03TH
02VIE CAMERA
02YAI
01RO DANDA
05IGIT EIGHT
10FIVE
11OUR
10NINE
10ONE
10SEVEN
11IX
10THREE
11WO
10ZERO
05OUBLE DANDA
04LETTER A
11BA
11CHU
11DA
13I
11E
12A
11HAI
13O
11KEAAE
12HAI
12O
11LA
13N
11MAEM
12IM
11NGI
12IN
11O
12L
12O
11PA
12HI
11RI
12O
11SHI
11TA
12EK
12HEA
11WA
11YO
01UCH GREATER-THAN
05LESS-THAN
02LTANI LETTER A
15BA
16HA
15CA
16HA
15DA
16DA
17DA
17HA
16HA
15E
15GA
16HA
15HA
15I
15JA
16JA
15KA
16HA
15LA
15MA
15NA
16NA
16YA
15PA
16HA
15RA
16HA
16RA
15SA
15TA
16HA
16TA
17HA
15U
15VA
15YA
08SECTION MARK
04IMAP
05PLE MUSICAL NOTES
07ICATION SIGN
19 IN DOUBLE CIRCLE
23LEFT HALF CIRCLE
23RIGHT HALF CIRCLE
23TRIANGLE
20WITH DOT ABOVE
25UNDERBAR
15X
05SET
08 MULTIPLICATION
09UNION
02SHROOM
03IC FLAT SIGN
06NATURAL SIGN
06SHARP SIGN
05AL KEYBOARD
16 WITH JACKS
08NOTE
08SCORE
09YMBOL ARPEGGIATO DOWN
26UP
15BEGIN BEAM
21PHRASE
21SLUR
21TIE
16RACE
19KET
17EATH MARK
18VE
19IS
21 REST
15C CLEF
16AESURA
16IRCLE X NOTEHEAD
16LIMACUS
18VIS
17USTER NOTEHEAD BLACK
32WHITE
16ODA
17MBINING ACCENT
31-STACCATO
26UGMENTATION DOT
25BEND
25DOIT
27UBLE TONGUE
27WN BOW
25FLAG-1
302
303
304
305
27IP
25HARMONIC
25LOURE
25MARCATO
32-STACCATO
25RIP
25SMEAR
26NAP PIZZICATO
26PRECHGESANG STEM
26TACCATISSIMO
32O
27EM
25TENUTO
26REMOLO-1
332
333
27IPLE TONGUE
25UP BOW
18MON TIME
16RESCENDO
17OIX
16UT TIME
15DA CAPO
17L SEGNO
17MP
19 ALL
17SHED BARLINE
16ECRESCENDO
17GREE SLASH
16OUBLE BARLINE
22FLAT
22SHARP
16RUM CLEF-1
252
15EIGHTH NOTE
22REST
16ND BEAM
19OF STIMME
19PHRASE
19SLUR
19TIE
15F CLEF
21 OTTAVA ALTA
29BASSA
16ERMATA
22 BELOW
16INAL BARLINE
18GERED TREMOLO-1
322
323
17VE-LINE STAFF
16LAT DOWN
20UP
16ORTE
17UR-LINE STAFF
20STRING FRETBOARD
16USA BLACK
20WHITE
15G CLEF
21 OTTAVA ALTA
29BASSA
16LISSANDO DOWN
25UP
16RACE NOTE NO SLASH
26SLASH
17EGORIAN C CLEF
25F CLEF
15HALF NOTE
20PEDAL MARK
20REST
17UPTSTIMME
15INVERTED TURN
15KIEVAN C CLEF
22EIGHTH NOTE STEM DOWN
39UP
23ND OF PIECE
22FINAL NOTE
23LAT SIGN
22HALF NOTE
22QUARTER NOTE STEM DOWN
40UP
22RECITATIVE MARK
22WHOLE NOTE
16ORON
15LEFT REPEAT SIGN
16ONGA
20 IMPERFECTA REST
21PERFECTA REST
15MAXIMA
16EZZO
16INIMA
21 BLACK
22REST
16OON NOTEHEAD BLACK
29WHITE
16ULTI REST
20PLE MEASURE REST
15NATURAL DOWN
23UP
16EBENSTIMME
16OTEHEAD BLACK
16ULL NOTEHEAD
15ONE HUNDRED TWENTY-EIGHTH NOTE
41REST
18-LINE STAFF
16RNAMENT STROKE-1
320
321
312
313
314
315
316
317
318
319
16TTAVA ALTA
22BASSA
15PARENTHESIS NOTEHEAD
16EDAL MARK
21UP MARK
17S SUBPUNCTIS
16IANO
16LUS NOTEHEAD
16ODATUS
17RRECTUS
24 FLEXUS
15QUARTER NOTE
23REST
23TONE FLAT
28SHARP
17INDICESIMA ALTA
28BASSA
15REPEAT DOTS
21ED FIGURE-1
312
313
17VERSE FINAL BARLINE
16IGHT REPEAT SIGN
17NFORZANDO
15SCANDICUS
24 FLEXUS
16EGNO
17MIBREVIS BLACK
26REST
26WHITE
19MINIMA BLACK
26REST
26WHITE
16HARP DOWN
21UP
17ORT BARLINE
16INGLE BARLINE
17X-LINE STAFF
19STRING FRETBOARD
18TEENTH NOTE
25REST
19Y-FOURTH NOTE
28REST
16ORI
16QUARE B
22NOTEHEAD BLACK
31WHITE
16UBITO
15TEMPUS IMPERFECTUM CUM PROLATIONE IMPERFECTA
59 DIMINUTION-1
712
713
49PERFECTA
22PERFECTUM CUM PROLATIONE IMPERFECTA
47PERFECTA
55 DIMINUTION-1
16HIRTY-SECOND NOTE
29REST
17REE-LINE STAFF
16ORCULUS
23 RESUPINUS
16R
17IANGLE NOTEHEAD DOWN BLACK
38WHITE
33LEFT BLACK
38WHITE
33RIGHT BLACK
39WHITE
33UP BLACK
36RIGHT BLACK
42WHITE
36WHITE
23-ROUND NOTEHEAD DOWN BLACK
44WHITE
16URN
19 SLASH
20UP
16WO-LINE STAFF
15VIRGA
16OID NOTEHEAD
15WHOLE NOTE
21REST
16ITH FINGERNAILS
15X NOTEHEAD
15Z
01VS
01W
01YANMAR CONSONANT SIGN MEDIAL HA
30RA
30WA
30YA
24ON MEDIAL LA
34MA
34NA
23SHAN MEDIAL WA
08DIGIT EIGHT
14FIVE
15OUR
14NINE
14ONE
14SEVEN
15IX
14THREE
15WO
14ZERO
08LETTER A
16ITON RA
16U
15BA
16HA
15CA
16HA
15DA
16DA
17HA
16HA
15E
16ASTERN PWO KAREN GHWA
33NNA
33YWA
15GA
16HA
16REAT SA
15HA
15I
16I
15JA
16HA
15KA
16HA
18MTI CA
23HA
22DDA
24HA
23HA
22FA
22GA
22HA
23HA
22JA
23HA
22LLA
22NA
23YA
22RA
22SA
22TTA
24HA
22XA
22ZA
15LA
16LA
15MA
16ON BBA
21E
19E
19JHA
19NGA
15NA
16GA
16NA
17YA
16YA
15O
15PA
16HA
15RA
16UMAI PALAUNG FA
15SA
16GAW KAREN SHA
16HA
18N A
20BA
21HA
20CA
21HA
20DA
20FA
20GA
21HA
20HA
20JHA
20KA
21HA
20NA
21NA
21YA
20PHA
20THA
20ZA
17WE PALAUNG CHA
28SHA
16SA
15TA
17I LAING BA
26HA
25DA
26DA
27HA
26HA
25FA
25GA
26HA
25JA
26HA
25LLA
25NNA
26YA
16HA
16TA
17HA
15U
16U
15VOCALIC L
24L
23R
24R
15WA
16ESTERN PWO KAREN PWA
33THA
15YA
09OGOGRAM KHAMTI HM
24OAY
24QN
08MODIFIER LETTER KHAMTI REDUPLICATION
24SHAN REDUPLICATION
08SHAN DIGIT EIGHT
19FIVE
20OUR
19NINE
19ONE
19SEVEN
20IX
19THREE
20WO
19ZERO
09IGN ANUSVARA
14SAT
13DOT BELOW
13KHAMTI TONE-1
253
13LITTLE SECTION
13PAO KAREN TONE
13RUMAI PALAUNG TONE-5
13SECTION
14HAN COUNCIL EMPHATIC TONE
26TONE-2
313
18SAW
18TONE-2
233
235
236
13TAI LAING TONE-2
285
13VIRAMA
15SARGA
13WESTERN PWO KAREN TONE-1
362
363
364
365
09YMBOL AFOREMENTIONED
16ITON EXCLAMATION
21ONE
21TWO
15COMPLETED
15GENITIVE
15LOCATIVE
15SHAN EXCLAMATION
20ONE
08TAI LAING DIGIT EIGHT
24FIVE
25OUR
24NINE
24ONE
24SEVEN
25IX
24THREE
25WO
24ZERO
09ONE MARK SGAW KAREN HATHI
29KE PHO
08VOWEL SIGN AA
20I
21TON A
26I
19E
20 ABOVE
19GEBA KAREN I
19I
20I
19KAYAH EE
25OE
25U
19MON II
23O
19SGAW KAREN EU
20HAN AA
24E
25 ABOVE
24FINAL Y
19TALL AA
19U
20U
19VOCALIC L
28L
27R
28R
19WESTERN PWO KAREN EU
37UE
00N-ARY CIRCLED DOT OPERATOR
14PLUS OPERATOR
14TIMES OPERATOR
07OPRODUCT
06INTERSECTION
06LOGICAL AND
14OR
06PRODUCT
06SQUARE INTERSECTION OPERATOR
13UNION OPERATOR
07UMMATION
06TIMES OPERATOR
06UNION
11 OPERATOR WITH DOT
26PLUS
06WHITE VERTICAL BAR
01ABATAEAN CRUCIFORM NUMBER FOUR
10LETTER ALEPH
18YIN
17BETH
17DALETH
17FINAL ALEPH
23BETH
23HE
23KAPH
23LAMEDH
23MEM
23NUN
23SHIN
23YODH
17GIMEL
17HE
19TH
17KAPH
17LAMEDH
17MEM
17NUN
17PE
17QOPH
17RESH
17SADHE
19MEKH
18HIN
17TAW
18ETH
17WAW
17YODH
17ZAYIN
10NUMBER FIVE
18OUR
17ONE
20 HUNDRED
17TEN
18HREE
18WENTY
19O
03LA
02IL POLISH
03RA SIGN
02K
02ME BADGE
02ND
04INAGARI HEADSTROKE
12LETTER A
20A
20I
20U
19BA
20HA
19CA
20HA
19DA
20DA
21HA
20HA
19E
19GA
20HA
19HA
19I
20I
19JA
20HA
19KA
20HA
19LA
20LA
19MA
19NA
20GA
20NA
20YA
19O
19PA
20HA
19RA
20RA
19SA
20HA
20SA
19TA
20HA
20TA
21HA
19U
20U
19VA
20OCALIC R
28R
19YA
12SIGN ANUSVARA
18VAGRAHA
17SIDDHAM
17VIRAMA
19SARGA
12VOWEL SIGN AA
24I
24U
23E
23I
24I
23O
23PRISHTHAMATRA E
23U
24U
23VOCALIC R
32R
02RROW NO-BREAK SPACE
02TIONAL DIGIT SHAPES
09PARK
02USEATED FACE
02ZAR AMULET
01BH
02SP
01ECKTIE
02GATED DOUBLE VERTICAL BAR DOUBLE RIGHT TURNSTILE
05IVE ACKNOWLEDGE
09CIRCLED DIGIT ZERO
17LATIN CAPITAL LETTER A
38B
38C
38D
38E
38F
38G
38H
38I
38J
38K
38L
38M
38N
38O
38P
38Q
38R
38S
38T
38U
38V
38W
38X
38Y
38Z
17NUMBER EIGHTEEN
25LEVEN
24FIFTEEN
25OURTEEN
24NINETEEN
24SEVENTEEN
25IXTEEN
24THIRTEEN
25WELVE
27NTY
17SQUARE
17TRIANGLE
09DIAGONAL CROSS
18DIAMOND
18MIDDLE RIGHT TO LOWER CENTRE
09SQUARED AB
17CROSS MARK
17IC
17LATIN CAPITAL LETTER A
38B
38C
38D
38E
38F
38G
38H
38I
38J
38K
38L
38M
38N
38O
38P
38Q
38R
38S
38T
38U
38V
38W
38X
38Y
38Z
17PA
17QUESTION MARK
17SA
17WC
02ITHER A SUBSET OF NOR EQUAL TO
12PERSET OF NOR EQUAL TO
09PPROXIMATELY NOR ACTUALLY EQUAL TO
08GREATER-THAN NOR EQUAL TO
28IVALENT TO
25LESS-THAN
08LESS-THAN NOR EQUAL TO
25IVALENT TO
22GREATER-THAN
02L
02PTUNE
07 FORM TWO
02RD FACE
02SSUS
03T WITH EGGS
04ING DOLLS
02UTER
04RAL CHESS BISHOP
20 ROTATED NINETY DEGREES
29TWO HUNDRED SEVENTY DEGREES
14EQUIHOPPER
24 ROTATED NINETY DEGREES
14KING
18 ROTATED NINETY DEGREES
27TWO HUNDRED SEVENTY DEGREES
15NIGHT
20 ROTATED FORTY-FIVE DEGREES
29NINETY DEGREES
29ONE HUNDRED THIRTY-FIVE DEGREES
29THREE HUNDRED FIFTEEN DEGREES
30WO HUNDRED SEVENTY DEGREES
41TWENTY-FIVE DEGREES
14PAWN
18 ROTATED NINETY DEGREES
27TWO HUNDRED SEVENTY DEGREES
14QUEEN
19 ROTATED NINETY DEGREES"

/-- Names from `NEUTRAL CHESS QUEEN ROTATED TWO HUNDRED SEVENTY DEGREES` on. -/
def namesF : String :=
"00NEUTRAL CHESS QUEEN ROTATED TWO HUNDRED SEVENTY DEGREES
14ROOK
18 ROTATED NINETY DEGREES
27TWO HUNDRED SEVENTY DEGREES
14TURNED BISHOP
21KING
22NIGHT
21PAWN
21QUEEN
21ROOK
08FACE
02W LINE
04MOON SYMBOL
09WITH FACE
04SHEQEL SIGN
04TAI LUE DIGIT EIGHT
18FIVE
19OUR
18NINE
18ONE
18SEVEN
19IX
18THREE
19WO
18ZERO
12LETTER FINAL B
25D
25K
25M
25N
26G
25V
19HIGH BA
24DA
24FA
24HA
24KA
25VA
24LA
24MA
24NA
25GA
24PA
25HA
24QA
24SA
25UA
24TA
25HA
25SA
24VA
24XA
25VA
24YA
19LOW BA
23DA
23FA
23HA
23KA
24VA
23LA
23MA
23NA
24GA
23PA
24HA
23QA
23SA
24UA
23TA
24HA
24SA
23VA
23XA
24VA
23YA
12SIGN LAE
20V
12THAM DIGIT ONE
13ONE MARK-1
222
12VOWEL SIGN AA
25Y
24E
24Y
23E
23II
24Y
23O
24A
25Y
24Y
23U
24E
25Y
24U
24Y
23VOWEL SHORTENER
03A ABBREVIATION SIGN
05COMMA
05DANDA
06IGIT EIGHT
11FIVE
12OUR
11NINE
11ONE
11SEVEN
12IX
11THREE
12WO
11ZERO
06OUBLE COMMA
12DANDA
05GAP FILLER
05INSERTION SIGN
05LETTER A
13A
13I
13U
12BA
13HA
12CA
13HA
12DA
13DA
14HA
13HA
12E
12GA
13HA
12HA
12I
13I
12JA
13HA
12KA
13HA
12LA
13HA
12MA
13HA
12NA
13GA
14HA
13HA
13NA
13YA
14HA
12O
12PA
13HA
12RA
13HA
12SA
13HA
13SA
12TA
13HA
13TA
14HA
12U
13U
12VEDIC ANUSVARA
13OCALIC L
21L
20R
21R
12WA
12YA
05OM
05PLACEHOLDER MARK
05SANDHI MARK
06IDDHI
07GN ANUSVARA
11VAGRAHA
10CANDRABINDU
10FINAL ANUSVARA
10JIHVAMULIYA
10NUKTA
10UPADHMANIYA
10VIRAMA
12SARGA
05VOWEL SIGN AA
17I
17U
16E
16I
17I
16O
16U
17U
16VOCALIC L
25L
24R
25R
03LINE LEFT
08RIGHT
03SPAPER
02XT LINE
05PAGE
01IGHT WITH STARS
02NJA
01KO COMBINING DOUBLE DOT ABOVE
14LONG DESCENDING TONE
19HIGH TONE
19LOW TONE
19RISING TONE
14NASALIZATION MARK
14SHORT HIGH TONE
20LOW TONE
20RISING TONE
07MA
04DANTAYALAN
05IGIT EIGHT
10FIVE
11OUR
10NINE
10ONE
10SEVEN
11IX
10THREE
11WO
10ZERO
05OROME SIGN
04EXCLAMATION MARK
04HIGH TONE APOSTROPHE
04LAJANYALAN
05ETTER A
11BA
11CHA
11DA
13GBASINNA
11E
12E
11FA
11GBA
11HA
11I
11JA
12ONA CHA
16JA
16RA
11KA
11LA
11MA
11N
12A
13 WOLOSO
12YA
14 WOLOSO
11O
12O
11PA
11RA
12RA
11SA
11TA
11U
11WA
11YA
05OW TONE APOSTROPHE
04SYMBOL GBAKURUNEN
11OO DENNEN
04TAMAN SIGN
01L
01NBSP
01O BICYCLES
04REAK HERE
03ENTRY
08 SIGN
03MOBILE PHONES
03ONE UNDER EIGHTEEN SYMBOL
03PEDESTRIANS
04IRACY
03SMOKING SYMBOL
02-BREAK SPACE
02MINAL DIGIT SHAPES
04SMA SIGN
02N-BREAKING HYPHEN
04POTABLE WATER SYMBOL
03FORKING
02R
03DIC MARK SIGN
03MAL SUBGROUP OF
18 OR EQUAL TO
03TH EAST AND SOUTH WEST ARROW
12RROW
16 AND SOUTH EAST ARROW
17CROSSING NORTH WEST ARROW
26SOUTH EAST ARROW
17WITH HOOK
11BLACK ARROW
11DOUBLE ARROW
11POINTING BUD
20LEAF
20VINE LEAF
11SANS-SERIF ARROW
11TRIANGLE-HEADED ARROW
32 TO BAR
11WHITE ARROW
06INDIC FRACTION ONE EIGHTH
25HALF
25QUARTER
25SIXTEENTH
21THREE QUARTERS
27SIXTEENTHS
12PLACEHOLDER MARK
12QUANTITY MARK
15RTER MARK
12RUPEE MARK
06WEST AND SOUTH EAST ARROW
12RROW
16 AND NORTH EAST ARROW
17CROSSING NORTH EAST ARROW
17TO CORNER
20LONG BAR
17WITH HOOK
11BLACK ARROW
11DOUBLE ARROW
11POINTING BUD
20LEAF
20VINE LEAF
11SANS-SERIF ARROW
11TRIANGLE-HEADED ARROW
32 TO BAR
11WHITE ARROW
05EAST-POINTING AIRPLANE
02SE
02T A SUBSET OF
08PERSET OF
05LMOST EQUAL TO
05N ELEMENT OF
05SYMPTOTICALLY EQUAL TO
04CHECK MARK
04EQUAL TO
07IVALENT TO
04GREATER-THAN
04IDENTICAL TO
04LESS-THAN
04NORMAL SUBGROUP OF
22 OR EQUAL TO
04PARALLEL TO
04SIGN
05QUARE IMAGE OF OR EQUAL TO
11ORIGINAL OF OR EQUAL TO
04TILDE
05RUE
03CHED LEFT SEMICIRCLE WITH THREE DOTS
09OWER RIGHT-SHADOWED WHITE RIGHTWARDS ARROW
08RIGHT SEMICIRCLE WITH THREE DOTS
08UPPER RIGHT-SHADOWED WHITE RIGHTWARDS ARROW
03E
04 PAD
07GE
04BOOK
08 WITH DECORATIVE COVER
01UL
03L
02MBER EIGHTEEN FULL STOP
08LEVEN FULL STOP
07FIFTEEN FULL STOP
08OURTEEN FULL STOP
07NINETEEN FULL STOP
07SEVENTEEN FULL STOP
08IGN
09XTEEN FULL STOP
07TEN FULL STOP
08HIRTEEN FULL STOP
08WELVE FULL STOP
10NTY FULL STOP
03ERO SIGN
02SHU CHARACTER-1B170
201
202
203
204
205
206
207
208
209
20A
20B
20C
20D
20E
20F
1980
201
202
203
204
205
206
207
208
209
20A
20B
20C
20D
20E
20F
1990
201
202
203
204
205
206
207
208
209
20A
20B
20C
20D
20E
20F
19A0
201
202
203
204
205
206
207
208
209
20A
20B
20C
20D
20E
20F
19B0
201
202
203
204
205
206
207
208
209
20A
20B
20C
20D
20E
20F
19C0
201
202
203
204
205
206
207
208
209
20A
20B
20C
20D
20E
20F
19D0
201
202
203
204
205
206
207
208
209
20A
20B
20C
20D
20E
20F
19E0
201
202
203
204
205
206
207
208
209
20A
20B
20C
20D
20E
20F
19F0
201
202
203
204
205
206
207
208
209
20A
20B
20C
20D
20E
20F
18200
201
202
203
204
205
206
207
208
209
20A
20B
20C
20D
20E
20F
1910
201
202
203
204
205
206
207
208
209
20A
20B
20C
20D
20E
20F
1920
201
202
203
204
205
206
207
208
209
20A
20B
20C
20D
20E
20F
1930
201
202
203
204
205
206
207
208
209
20A
20B
20C
20D
20E
20F
1940
201
202
203
204
205
206
207
208
209
20A
20B
20C
20D
20E
20F
1950
201
202
203
204
205
206
207
208
209
20A
20B
20C
20D
20E
20F
1960
201
202
203
204
205
206
207
208
209
20A
20B
20C
20D
20E
20F
1970
201
202
203
204
205
206
207
208
209
20A
20B
20C
20D
20E
20F
1980
201
202
203
204
205
206
207
208
209
20A
20B
20C
20D
20E
20F
1990
201
202
203
204
205
206
207
208
209
20A
20B
20C
20D
20E
20F
19A0
201
202
203
204
205
206
207
208
209
20A
20B
20C
20D
20E
20F
19B0
201
202
203
204
205
206
207
208
209
20A
20B
20C
20D
20E
20F
19C0
201
202
203
204
205
206
207
208
209
20A
20B
20C
20D
20E
20F
19D0
201
202
203
204
205
206
207
208
209
20A
20B
20C
20D
20E
20F
19E0
201
202
203
204
205
206
207
208
209
20A
20B
20C
20D
20E
20F
19F0
201
202
203
204
205
206
207
208
209
20A
20B
06ITERATION MARK
02T AND BOLT
01YIAKENG PUACHUE HMONG CIRCLED CA
23DIGIT EIGHT
29FIVE
30OUR
29NINE
29ONE
29SEVEN
30IX
29THREE
30WO
29ZERO
23LETTER A
31A
30CA
30DA
31LA
30E
31E
30FA
30GA
30HA
32H
30I
30KA
30LA
30MA
31LA
30NA
31CA
31KA
31PA
32LA
31QA
31RA
31TA
32SA
32XA
31YA
30O
31O
30PA
31LA
30QA
30RA
31RA
30SA
30TA
31SA
31XA
30U
30VA
30W
30XA
31YA
30YA
30ZA
24OGOGRAM NYAJ
23SIGN FOR ANIMAL
32INVERTEBRATE
32LOCATION
32PERSON
32THING
28XW XW
24YLLABLE LENGTHENER
23TONE-B
28D
28G
28J
28M
28S
28V
00OBJECT REPLACEMENT CHARACTER
02LIQUE ANGLE OPENING DOWN
22UP
08HYPHEN
02SERVER EYE SYMBOL
01CR AMOUNT OF CHECK
04BELT BUCKLE
05OW TIE
05RANCH BANK IDENTIFICATION
04CHAIR
05USTOMER ACCOUNT NUMBER
04DASH
05OUBLE BACKSLASH
04FORK
04HOOK
04INVERTED FORK
02TAGONAL SIGN
03OPUS
01DEN
01FFICE BUILDING
01GHAM FEATHER MARK
06LETTER AILM
13BEITH
13CEIRT
14OLL
13DAIR
13EABHADH
15DHADH
15MHANCHOLL
13FEARN
13GORT
13IFIN
14ODHADH
13LUIS
13MUIN
13NGEADAL
14ION
13ONN
14R
13PEITH
13RUIS
13SAIL
14TRAIF
13TINNE
13UATH
14ILLEANN
14R
06REVERSED FEATHER MARK
06SPACE MARK
02ONEK
01HM SIGN
01IL DRUM
01K HAND SIGN
01L CHIKI AHAD
09DIGIT EIGHT
15FIVE
16OUR
15NINE
15ONE
15SEVEN
16IX
15THREE
16WO
15ZERO
09GAAHLAA TTUDDAAG
09LETTER AAJ
18K
18M
18W
17G
17L
17NG
17T
16EDD
17N
17P
17RR
16IH
17NY
17R
17S
16LA
18A
17E
17I
17O
17U
16OB
17H
17TT
17V
16UC
17D
17NN
17Y
09MU TTUDDAG
11-GAAHLAA TTUDDAAG
09PHAARKAA
10UNCTUATION DOUBLE MUCAAD
21MUCAAD
09RELAA
02D CHINESE HOOK MARK
12ITERATION MARK
04HUNGARIAN CAPITAL LETTER A
30A
30K
30MB
30ND
29CLOSE E
29E
30B
30C
31H
31S
30D
30E
30F
30G
31Y
30H
30J
30K
30L
31Y
30M
31P
30N
31C
31T
32-SHAPED SIGN
31Y
30P
30R
30S
31Z
30T
31Y
30V
30Z
31S
29I
30I
29NIKOLSBURG OE
40UE
29O
30EE
30O
29RUDIMENTA OE
39UE
29SHORT ER
29U
30NK
30S
30U
14NUMBER FIFTY
23VE
21ONE
24 HUNDRED
25THOUSAND
21TEN
14SMALL LETTER A
28A
28K
28MB
28ND
27CLOSE E
27E
28B
28C
29H
29S
28D
28E
28F
28G
29Y
28H
28J
28K
28L
29Y
28M
29P
28N
29C
29T
30-SHAPED SIGN
29Y
28P
28R
28S
29Z
28T
29Y
28V
28Z
29S
27I
28I
27NIKOLSBURG OE
38UE
27O
28EE
28O
27RUDIMENTA OE
37UE
27SHORT ER
27U
28NK
28S
28U
04ITALIC LETTER A
18BE
18CHE
18DE
18E
19F
19KS
19L
19M
19N
19R
20S
19S
20H
20S
18HE
18I
19I
18KA
19E
19HE
19U
18NORTHERN TSE
18O
18PE
19HE
18SHE
19OUTHERN TSE
18TE
19HE
18U
19U
18VE
18YE
18ZE
11NUMERAL FIFTY
21VE
19ONE
19TEN
04KEY
04NORTH ARABIAN LETTER AIN
26LEF
25BEH
25DAD
27L
25ES-1
282
283
25FEH
25GEEM
26HAIN
25HAH
26EH
25KAF
26HAH
25LAM
25MEEM
25NOON
25QAF
25REH
25SAD
25TAH
26EH
26HAL
27EH
25WAW
25YEH
25ZAH
27IN
18NUMBER ONE
25TEN
26WENTY
04PERMIC LETTER AN
18BUR
18CHERY
18DOI
19ZHOI
20ITA
18E
19F
18GAI
18HA
18I
19A
19E
18KOKE
18LEI
18MENOE
18NENOE
18O
19O
18PEEI
18REI
18SHCHOOI
20OOI
19II
18TAI
19SIU
18U
18VER
19OOI
18YA
20T
19ER
21I
21U
19RY
19U
18ZATA
19HOI
07SIAN NUMBER HUNDRED
19ONE
19TEN
20WENTY
21O
12SIGN A
18URAMAZDAA
27-2
27HA
17BA
19GA
18UUMISH
17CA
17DA
19HYAAUSH
26-2
18I
18U
17FA
17GA
18U
17HA
17I
17JA
18I
17KA
18U
17LA
17MA
18I
18U
17NA
18U
17PA
17RA
18U
17SA
18HA
18SA
17TA
18HA
18U
17U
17VA
18I
17XA
18SHAAYATHIYA
17YA
17ZA
12WORD DIVIDER
08ONAL COMPUTER
04SOGDIAN FRACTION ONE HALF
12LETTER ALEPH
21TERNATE AYIN
20YIN
19BETH
19FINAL ALEPH
25BETH
25HE
25NUN
28 WITH VERTICAL TAIL
25SADHE
30 WITH VERTICAL TAIL
25TAW
28 WITH VERTICAL TAIL
19GIMEL
19HE
21TH
19KAPH
19LAMEDH
19MEM
19NUN
19PE
19RESH-AYIN-DALETH
19SADHE
21MEKH
20HIN
19TAW
19WAW
19YODH
19ZAYIN
13IGATURE AYIN-DALETH
12NUMBER FIVE
20OUR
19ONE
22 HUNDRED
19TEN
20HIRTY
21REE
20WENTY
21O
06UTH ARABIAN LETTER ALEF
26YN
25BETH
25DALETH
26HADHE
28LETH
25FE
25GHAYN
26IMEL
25HE
27TH
25KAPH
26HETH
25LAMEDH
25MEM
25NUN
25QOPH
25RESH
25SADHE
27MEKH
27T
26HIN
25TAW
26ETH
26HAW
27ETH
25WAW
25YODH
25ZAYN
18NUMBER FIFTY
25ONE
21ERIC INDICATOR
04TURKIC LETTER ORKHON A
26B
26D
26EB
27D
27G
27K
27L
27N
27R
27S
27T
27Y
26G
26L
26N
26Q
26R
26S
27H
26T
26Y
25BASH
25EC
26LT
26M
26NC
27G
27T
27Y
26P
26SH
26Z
25I
26C
26Q
25O
26E
27K
26P
26Q
26T
18YENISEI A
27B
27D
27E
28B
28G
28K
28N
29G
28T
28Y
27G
27L
27NG
27Q
27R
27SH
27T
27Y
26E
27C
27NC
28T
28Y
27SH
27Z
26I
27Q
26OE
28K
27Q
04UYGHUR COMBINING DOT ABOVE
25BELOW
21TWO DOTS ABOVE
30BELOW
11LETTER ALEPH
18BETH
18FINAL HETH
18GIMEL-HETH
18KAPH
18LAMEDH
19ESH
18MEM
18NUN
18PE
18RESH
18SADHE
20MEKH
19HIN
18TAW
18WAW
18YODH
18ZAYIN
11PUNCTUATION BAR
23FOUR DOTS
23TWO BARS
27DOTS
03ER ADULT
06MAN
06WOMAN
02IVE
01M SYMBOL
01N WITH EXCLAMATION MARK WITH LEFT RIGHT ARROW ABOVE
02COMING AUTOMOBILE
09BUS
09FIRE ENGINE
09POLICE CAR
09TAXI
02E BUTTON MOUSE
04DOT LEADER
08OVER TWO DOTS PUNCTUATION
03-PIECE SWIMSUIT
02ION
01PEN BOOK
07X
05CENTRE ASTERISK
12BLACK STAR
12CROSS
12TEARDROP-SPOKED ASTERISK
05FILE FOLDER
06OLDER
05HANDS SIGN
05LOCK
05MAILBOX WITH LOWERED FLAG
18RAISED FLAG
05SUBSET
07PERSET
04-CIRCUIT-OUTPUT H-TYPE SYMBOL
20L-TYPE SYMBOL
05OUTLINED RIGHTWARDS ARROW
03RATING SYSTEM COMMAND
02HIUCHUS
02POSITION
02TICAL DISC
12 ICON
04ON KEY
01R WITH DOT INSIDE
02ANGE BOOK
07HEART
05UTAN
02IGINAL OF
03YA AI LENGTH MARK
07U LENGTH MARK
06DIGIT EIGHT
12FIVE
13OUR
12NINE
12ONE
12SEVEN
13IX
12THREE
13WO
12ZERO
06FRACTION ONE EIGHTH
19HALF
19QUARTER
19SIXTEENTH
15THREE QUARTERS
21SIXTEENTHS
06ISSHAR
06LETTER A
14A
14I
14U
13BA
14HA
13CA
14HA
13DA
14DA
15HA
14HA
13E
13GA
14HA
13HA
13I
14I
13JA
14HA
13KA
14HA
13LA
14LA
13MA
13NA
14GA
14NA
14YA
13O
13PA
14HA
13RA
14HA
14RA
13SA
14HA
14SA
13TA
14HA
14TA
15HA
13U
14U
13VA
14OCALIC L
22L
21R
22R
13WA
13YA
14YA
06SIGN ANUSVARA
12VAGRAHA
11CANDRABINDU
11NUKTA
11OVERLINE
11VIRAMA
13SARGA
06VOWEL SIGN AA
18I
18U
17E
17I
18I
17O
17U
18U
17VOCALIC L
26L
25R
26R
02NATE LEFT PARENTHESIS
07RIGHT PARENTHESIS
02THODOX CROSS
01SAGE CAPITAL LETTER A
22H
22I
23N
21BRA
21CHA
21DHA
21E
22HCHA
23KA
23PA
23TA
24SA
22IN
21GHA
21HA
22YA
21I
21KA
22HA
22YA
21LA
21MA
21NA
21O
22IN
21PA
21SA
22HA
21TA
22SA
23HA
21U
21WA
21ZA
22HA
06SMALL LETTER A
20H
20I
21N
19BRA
19CHA
19DHA
19E
20HCHA
21KA
21PA
21TA
22SA
20IN
19GHA
19HA
20YA
19I
19KA
20HA
20YA
19LA
19MA
19NA
19O
20IN
19PA
19SA
20HA
19TA
20SA
21HA
19U
19WA
19ZA
20HA
02C
02MANYA DIGIT EIGHT
14FIVE
15OUR
14NINE
14ONE
14SEVEN
15IX
14THREE
15WO
14ZERO
08LETTER A
16A
16LEF
15BA
15CAYN
15DEEL
16HA
15E
16E
15FA
15GA
15HA
15I
15JA
15KAAF
16HA
15LAAN
15MIIN
15NUUN
15O
16O
15QAAF
15RA
15SA
16HIIN
15TA
15U
15WAW
15XA
15YA
01TTER
03OMAN SIYAQ ALTERNATE NUMBER EIGHT
31FIVE
32OUR
35 HUNDRED
31NINE
31SEVEN
32IX
34 HUNDRED
31TEN
34 THOUSAND
32HREE
32WO
34 THOUSAND
14FRACTION ONE HALF
27SIXTH
14MARRATAN
14NUMBER EIGHT
26 HUNDRED
27THOUSAND
26Y
27 THOUSAND
21FIFTY
26 THOUSAND
23VE
25 HUNDRED
26THOUSAND
22ORTY
26 THOUSAND
23UR
25 HUNDRED
26THOUSAND
21NINE
25 HUNDRED
26THOUSAND
25TY
27 THOUSAND
21ONE
24 HUNDRED
25THOUSAND
21SEVEN
26 HUNDRED
27THOUSAND
26TY
28 THOUSAND
22IX
24 HUNDRED
25THOUSAND
24TY
26 THOUSAND
21TEN
24 THOUSAND
22HIRTY
27 THOUSAND
23REE
26 HUNDRED
27THOUSAND
22WENTY
27 THOUSAND
23O
24 HUNDRED
25THOUSAND
01UNCE SIGN
02TBOX TRAY
03LINED BLACK STAR
09GREEK CROSS
09LATIN CROSS
09WHITE STAR
01VERHEATED FACE
04LAP
07PING BLACK SQUARES
12WHITE AND BLACK SQUARES
18SQUARES
05INE
01WL
01X
01YSTER
00PACKAGE
02D
03DING CHARACTER
02GE
04 FACING UP
05WITH CIRCLED TEXT
11URL
04R
04S
03ODA
02HAWH HMONG CLAN SIGN FAJ
23HAM
25WJ
23KHAB
24OO
24WM
23LAUJ
24IS
23MUAS
23PHAB
23THOJ
24SAB
25HEEJ
25WB
23VAJ
24WJ
23XYOOJ
23YAJ
24EEG
14ONSONANT AU
23CAU
24HAU
23HAU
24LAU
24NAU
23LAU
23MAU
23NAU
24CHAU
24KAU
24LAU
24THAU
25SAU
23PLHAU
23QHAU
23RAU
23VAU
23XAU
23YAU
13DIGIT EIGHT
19FIVE
20OUR
19NINE
19ONE
19SEVEN
20IX
19THREE
20WO
19ZERO
13MARK CIM HOM
22KES
23HAV
22SO
23UAM
22TAUM
23UB
13NUMBER HUNDRED MILLIONS
27S
20MILLIONS
20TEN BILLIONS
24THOUSANDS
23S
21RILLIONS
13SIGN AV
18CIM CHEEM
23UAM TSHOOJ
22HAIS LUS NTOG NTOG
22NRES TOS
22PUB DAWB
22TSOV ROG
23XWV
26 CHWV
18HLI
19NUB
18IB YAM
18LOS
18MEEJ SUAB
23TSEEB
19US
18NQIG
19TUJ
18TAU
19HIRD-STAGE HLI
19XHEEJ CEEV
18VOS FEEM
22LUB
22NRUA
22SEEV
22THIAB
24OM
23SHAB CEEB
18XAUS
19IAB
19YEEM FAIB
24NTXIV
24RHO
24TOV
20OO
18ZWJ THAJ
13VOWEL KAAB
22V
21B
21IB
22V
21UB
22V
21V
21WB
22V
20EB
21EB
22V
21V
20IAB
22V
21B
21V
20OB
21OB
22V
21V
20UAB
22V
21B
21V
20WB
21V
02LLAS
03M BRANCH
05DOWN HAND
05TREE
05UP HAND
04S UP TOGETHER
04YRENE LEFT-POINTING FLEURON
12TTER ALEPH
18YIN
17BETH
17DALETH
17FINAL NUN
17GIMEL
17HE
19TH
17KAPH
17LAMEDH
17MEM
17NUN
17PE
17QOPH
17RESH
17SADHE
19MEKH
18HIN
17TAW
18ETH
17WAW
17YODH
17ZAYIN
10NUMBER FIVE
18OUR
17ONE
17TEN
18HREE
18WENTY
19O
10RIGHT-POINTING FLEURON
02NCAKES
03DA FACE
02PERCLIP
02RACHUTE
04GRAPH SEPARATOR
09OS
09US MARK
04LLEL TO
09WITH HORIZONTAL STROKE
14TILDE OPERATOR
03ENTHESIZED DIGIT EIGHT
20FIVE
21OUR
20NINE
20ONE
20SEVEN
21IX
20THREE
21WO
14HANGUL CHIEUCH
28 A
22IEUC
26 A
27U
21HIEUH
26 A
21IEUNG
26 A
21KHIEUKH
28 A
22IYEOK
27 A
21MIEUM
26 A
21NIEUN
26 A
21PHIEUPH
28 A
22IEUP
26 A
21RIEUL
26 A
21SIOS
25 A
21THIEUTH
28 A
22IKEUT
27 A
14IDEOGRAPH ALLIANCE
24CALL
25ONGRATULATION
24EARTH
25IGHT
25NTERPRISE
24FESTIVAL
25INANCIAL
26RE
26VE
25OUR
24HAVE
24LABOR
24METAL
25OON
24NAME
25INE
24ONE
24REACH
26PRESENT
26SOURCE
27T
24SELF
26VEN
25IX
25OCIETY
25PECIAL
25TOCK
26UDY
25UN
26PERVISE
24TEN
25HREE
25WO
24WATER
25OOD
14KOREAN CHARACTER O HU
32JEON
14LATIN CAPITAL LETTER A
35B
35C
35D
35E
35F
35G
35H
35I
35J
35K
35L
35M
35N
35O
35P
35Q
35R
35S
35T
35U
35V
35W
35X
35Y
35Z
20SMALL LETTER A
33B
33C
33D
33E
33F
33G
33H
33I
33J
33K
33L
33M
33N
33O
33P
33Q
33R
33S
33T
33U
33V
33W
33X
33Y
33Z
14NUMBER EIGHTEEN
22LEVEN
21FIFTEEN
22OURTEEN
21NINETEEN
21SEVENTEEN
22IXTEEN
21TEN
22HIRTEEN
22WELVE
24NTY
03ROT
03T ALTERNATION MARK
04IAL DIFFERENTIAL
08LINE BACKWARD
13DOWN
13FORWARD
13UP
07LY-RECYCLED PAPER SYMBOL
04NERSHIP SIGN
04Y POPPER
02SSED SYMBOL
05NGER SHIP
04IVE-PULL-DOWN-OUTPUT SYMBOL
13UP-OUTPUT SYMBOL
04PORT CONTROL
02U CIN HAU GLOTTAL STOP
24 FINAL
25VARIANT
12LETTER A
19BA
19CA
20HA
19DA
19E
19FA
20INAL K
25L
25M
25N
26G
25P
25T
25W
25Y
19GA
19HA
19I
20A
19KA
20HA
19LA
19MA
19NA
20GA
19O
19PA
20HA
19RA
19SA
19TA
20HA
19U
20A
19VA
19ZA
13OW-FALLING TONE
28 FINAL
29LONG
33 FINAL
12MID-LEVEL TONE
26 FINAL
27LONG FINAL
12RISING TONE
23 FINAL
24LONG
28 FINAL
12SANDHI GLOTTAL STOP
31 FINAL
19TONE
23 FINAL
24LONG
28 FINAL
02W PRINTS
01DF
02I
01EACE SYMBOL
04H
04OCK
03NUTS
03R
02DESTRIAN
02N OVER STAMPED ENVELOPE
03CIL
03GUIN
03SIVE FACE
03TAGRAM
02OPLE HUGGING
02R MILLE SIGN
04SIGN
04TEN THOUSAND SIGN
03CENT SIGN
03FORMING ARTS
03MANENT PAPER SIGN
03PENDICULAR
13 WITH S
03SEVERING FACE
04ON BOWING DEEPLY
07CLIMBING
07DOING CARTWHEEL
07FROWNING
07IN LOTUS POSITION
10STEAMY ROOM
07RAISING BOTH HANDS IN CELEBRATION
07WITH BALL
13LOND HAIR
12CROWN
12FOLDED HANDS
12HEADSCARF
12POUTING FACE
06AL COMPUTER
04PECTIVE
02SETA SIGN
03O SIGN
02TRI DISH
01HAGS-PA DOUBLE HEAD MARK
09LETTER A
17LTERNATE YA
17SPIRATED FA
16BA
16CA
18NDRABINDU
17HA
16DA
17DA
17ZA
16E
17E
16FA
16GA
17GA
16HA
16I
16JA
16KA
17HA
16LA
16MA
16NA
17GA
17NA
17YA
16O
16PA
17HA
16QA
16RA
16SA
17HA
17MALL A
16TA
17HA
17SA
18HA
17TA
18HA
16U
16VOICED HA
21LESS SHA
16WA
16XA
16YA
16ZA
17HA
09MARK DOUBLE SHAD
14SHAD
09SINGLE HEAD MARK
10UBJOINED LETTER RA
26WA
26YA
11PERFIXED LETTER RA
03ISTOS DISC SIGN ARROW
19BEE
22HIVE
20OOMERANG
21W
20ULLS LEG
19CAPTIVE
21RPENTRY PLANE
21T
20HILD
20LUB
20OLUMN
21MB
23INING OBLIQUE STROKE
19DOLIUM
21VE
19EAGLE
19FLUTE
19GAUNTLET
20RATER
19HELMET
20IDE
20ORN
19LID
21LY
19MANACLES
21TTOCK
19OX BACK
19PAPYRUS
20EDESTRIAN
20LANE TREE
21UMED HEAD
19RAM
20OSETTE
19SAW
20HIELD
22P
20LING
20MALL AXE
20TRAINER
19TATTOOED HEAD
20IARA
20UNNY
19VINE
19WAVY BAND
20OMAN
02ILIPPINE DOUBLE PUNCTUATION
11SINGLE PUNCTUATION
02OENICIAN LETTER AIN
19LF
18BET
18DELT
18GAML
18HE
20T
18KAF
18LAMD
18MEM
18NUN
18PE
18QOF
18ROSH
18SADE
19EMK
19HIN
18TAU
19ET
18WAU
18YOD
18ZAI
11NUMBER ONE
21 HUNDRED
18TEN
19HREE
19WENTY
20O
11WORD SEPARATOR
03LUS
01ICK
04UP TRUCK
02E
02G
03 FACE
04NOSE
02LCROW SIGN
03E OF POO
03L
02NATA
03CHED FINGERS
05ING HAND
03E DECORATION
04APPLE
03WHEEL STAR
02SCES
03TOL
02TCHFORK
09 WITH TEE TOP
01LACARD
04E OF INTEREST SIGN
09WORSHIP
03NCK CONSTANT
15 OVER TWO PI
03YGROUND SLIDE
04ING CARD ACE OF CLUBS
20DIAMONDS
20HEARTS
20SPADES
13BACK
14LACK JOKER
13EIGHT OF CLUBS
22DIAMONDS
22HEARTS
22SPADES
13FIVE OF CLUBS
21DIAMONDS
21HEARTS
21SPADES
14OOL
15UR OF CLUBS
21DIAMONDS
21HEARTS
21SPADES
13JACK OF CLUBS
21DIAMONDS
21HEARTS
21SPADES
13KING OF CLUBS
21DIAMONDS
21HEARTS
21SPADES
14NIGHT OF CLUBS
23DIAMONDS
23HEARTS
23SPADES
13NINE OF CLUBS
21DIAMONDS
21HEARTS
21SPADES
13QUEEN OF CLUBS
22DIAMONDS
22HEARTS
22SPADES
13RED JOKER
13SEVEN OF CLUBS
22DIAMONDS
22HEARTS
22SPADES
14IX OF CLUBS
20DIAMONDS
20HEARTS
20SPADES
13TEN OF CLUBS
20DIAMONDS
20HEARTS
20SPADES
14HREE OF CLUBS
22DIAMONDS
22HEARTS
22SPADES
14RUMP-1
200
201
202
203
204
205
206
207
208
209
192
200
201
193
194
195
196
197
198
199
14WO OF CLUBS
20DIAMONDS
20HEARTS
20SPADES
13WHITE JOKER
02D
02U
03NGER
03S SIGN
09 ABOVE EQUALS SIGN
10IN LEFT HALF CIRCLE
13RIGHT HALF CIRCLE
13TRIANGLE
10WITH BLACK TRIANGLE
15CIRCUMFLEX ACCENT ABOVE
15DOT BELOW
15SMALL CIRCLE ABOVE
16UBSCRIPT TWO
15TILDE ABOVE
21BELOW
04-MINUS SIGN
03TO
05 FORM FIVE
12OUR
11THREE
12WO
01M
01OCKET CALCULATOR
02LICE CAR
10S REVOLVING LIGHT
07OFFICER
02ODLE
02P DIRECTIONAL FORMATTING
16ISOLATE
03CORN
02RTABLE STEREO
02SEIDON
03ITION INDICATOR
03TAL HORN
07MARK
11 FACE
04BOX
02T OF FOOD
03ABLE WATER SYMBOL
04TO
03TED PLANT
02UCH
03LTRY LEG
03ND SIGN
03RING LIQUID
03TING CAT FACE
08FACE
02WER ON SYMBOL
08-OFF SYMBOL
06SLEEP SYMBOL
07YMBOL
01RAYER BEADS
02ECEDES
08 ABOVE ALMOST EQUAL TO
15EQUALS SIGN
15NOT ALMOST EQUAL TO
19EQUAL TO
15SINGLE-LINE EQUALS SIGN
27NOT EQUAL TO
09BUT NOT EQUIVALENT TO
09OR EQUAL TO
15IVALENT TO
09UNDER RELATION
03GNANT MAN
09PERSON
09WOMAN
03SCRIPTION TAKE
04ENTATION FORM FOR VERTICAL COLON
33MMA
31EM DASH
32N DASH
32XCLAMATION MARK
31HORIZONTAL ELLIPSIS
31IDEOGRAPHIC COMMA
43FULL STOP
31LEFT ANGLE BRACKET
36BLACK LENTICULAR BRACKET
36CORNER BRACKET
37URLY BRACKET
36DOUBLE ANGLE BRACKET
36PARENTHESIS
36SQUARE BRACKET
36TORTOISE SHELL BRACKET
36WHITE CORNER BRACKET
42LENTICULAR BRACKET
32OW LINE
31QUESTION MARK
31RIGHT ANGLE BRACKET
37BLACK LENTICULAR BRACKET
37CORNER BRACKET
38URLY BRACKET
37DOUBLE ANGLE BRACKET
37PARENTHESIS
37SQUARE BRACKET
37TORTOISE SHELL BRACKET
37WHITE CORNER BRACKET
43LENTICULAR BRACKET
57KCET
31SEMICOLON
31TWO DOT LEADER
31WAVY LOW LINE
03TZEL
03VIOUS PAGE
02IME
03NCE
06SS
04T SCREEN SYMBOL
05ER
07 ICON
03VACY MESSAGE
05TE USE ONE
12TWO
11-1
122
02OBING CANE
03HIBITED SIGN
03JECTIVE
03PERTY LINE
04ORTION
10AL TO
03SERPINA
01SALTER PAHLAVI FOUR DOTS WITH CROSS
31DOT
16LETTER ALEPH
23BETH
23DALETH
23GIMEL
23HE
25TH
23KAPH
23LAMEDH
23MEM-QOPH
23NUN
23PE
23SADHE
25MEKH
24HIN
23TAW
23WAW-AYIN-RESH
23YODH
23ZAYIN
16NUMBER FOUR
23ONE
26 HUNDRED
23TEN
24HREE
24WENTY
25O
16SECTION MARK
16TURNED SECTION MARK
01U1
022
02BLIC ADDRESS LOUDSPEAKER
02NCTUATION SPACE
06S ELEVATUS MARK
02RPLE HEART
03SE
02SHPIN
02T LITTER IN ITS PLACE SYMBOL
00QUADRANT LOWER LEFT
15RIGHT
09UPPER LEFT
19 AND LOWER LEFT AND LOWER RIGHT
30RIGHT
24UPPER RIGHT AND LOWER LEFT
46RIGHT
15RIGHT
20 AND LOWER LEFT
35 AND LOWER RIGHT
05UPLE INTEGRAL OPERATOR
10PRIME
03RTER NOTE
03TERNION INTEGRAL OPERATOR
02ESTION EXCLAMATION MARK
09MARK
08ED EQUAL TO
02INCUNX
02OTATION MARK
00RABBIT
06 FACE
02CCOON
03ING CAR
07MOTORCYCLE
02DICAL SYMBOL BOTTOM
04O
05 BUTTON
05ACTIVE SIGN
02ILWAY CAR
08TRACK
03N
04BOW
03SED BACK OF HAND
07COMMA
07DOT
10TED INTERPOLATION MARKER
07FIST
07HAND
11 WITH FINGERS SPLAYED
17PART BETWEEN MIDDLE AND RING FINGERS
07INTERPOLATION MARKER
07MC SIGN
08D SIGN
08R SIGN
07SQUARE
02M
02T
03IO
02ZOR
01ECEIPT
03ORD SEPARATOR
03REATIONAL VEHICLE
03YCLED PAPER SYMBOL
06ING SYMBOL FOR GENERIC MATERIALS
21TYPE-1 PLASTICS
262 PLASTICS
263 PLASTICS
264 PLASTICS
265 PLASTICS
266 PLASTICS
267 PLASTICS
02D APPLE
04GIFT ENVELOPE
02FERENCE MARK
02GIONAL INDICATOR SYMBOL LETTER A
33B
33C
33D
33E
33F
33G
33H
33I
33J
33K
33L
33M
33N
33O
33P
33Q
33R
33S
33T
33U
33V
33W
33X
33Y
33Z
04STERED SIGN
02JANG CONSONANT SIGN H
22N
23G
22R
07LETTER A
14BA
14CA
14DA
14GA
14HA
14JA
14KA
14LA
14MA
15BA
14NA
15DA
15GA
16GA
15YA
16JA
14PA
14RA
14SA
14TA
14WA
14YA
07SECTION MARK
07VIRAMA
08OWEL SIGN AI
19U
18E
19A
19U
18I
18O
18U
02LIEVED FACE
02MINDER RIBBON
02PLACEMENT CHARACTER
02SPONSE
03TRICTED LEFT ENTRY-1
222
05OOM
02TURN LEFT
07RIGHT
07SYMBOL
02VERSE CHECKER BOARD
08INDEX
08LIGHT FOUR POINTED PINWHEEL STAR
10NE FEED
08SOLIDUS
15 OPERATOR
16PRECEDING SUBSET
16WITH HORIZONTAL STROKE
08TILDE OPERATOR ABOVE LEFTWARDS ARROW
29RIGHTWARDS ARROW
07D ANGLE
14 WITH UNDERBAR
09COMMA
09DOUBLE PRIME
21 QUOTATION MARK
16STROKE NOT SIGN
09EMPTY SET
09FORKED PARAGRAPHOS
09HAND WITH MIDDLE FINGER EXTENDED
09NOT SIGN
09PILCROW SIGN
10RIME
09QUESTION MARK
09RAISED HAND WITH FINGERS SPLAYED
10IGHT ANGLE
10OTATED FLORAL HEART BULLET
09SANS-SERIF CAPITAL L
10EMICOLON
09THUMBS DOWN SIGN
16UP SIGN
10ILDE
14 EQUALS
10RIPLE PRIME
09VICTORY HAND
03OLVING HEARTS
01HINOCEROS
01I
02AL SIGN
02BBON
06 ARROW DOWN LEFT
18RIGHT
13LEFT DOWN
18UP
13RIGHT DOWN
19UP
13UP LEFT
16RIGHT
02CE BALL
05CRACKER
02FLE
02GHT AND LOWER ONE EIGHTH BLOCK
10UPPER ONE EIGHTH BLOCK
08GER BUBBLE
09LE
11 BRACKET
19 WITH DOT
12DOTTED SUBSTITUTION MARKER
12SUBSTITUTION MARKER
12VARIANT WITH SQUARE
12WITH ARC
17DOWNWARDS ZIGZAG ARROW
07RC GREATER-THAN BRACKET
08ROW WITH CIRCLED PLUS
17SMALL CIRCLE
06BLACK LENTICULAR BRACKET
12TORTOISE SHELL BRACKET
06CEILING
07ORNER BRACKET
07URLY BRACKET
19 LOWER HOOK
20MIDDLE PIECE
20UPPER HOOK
06DOTTED SUBSTITUTION BRACKET
08UBLE ANGLE BRACKET
14RROW WITH ROUNDED HEAD
13PARENTHESIS
13QUOTATION MARK
13WIGGLY FENCE
06FISH TAIL
08VE EIGHTHS BLOCK
07LOOR
06HALF BLACK CIRCLE
17STAR
13OCK
11FOLDER
11MEDIUM SHADE
11RUNNING MAN
08ND TELEPHONE RECEIVER
06LOW PARAPHRASE BRACKET
06NORMAL FACTOR SEMIDIRECT PRODUCT
06ONE EIGHTH BLOCK
10QUARTER BLOCK
07PEN SQUARED DOT
07UTER JOIN
06PARENTHESIS
17 EXTENSION
18LOWER HOOK
18UPPER HOOK
06RAISED OMISSION BRACKET
06S-SHAPED BAG DELIMITER
07EMIDIRECT PRODUCT
08VEN EIGHTHS BLOCK
07IDEWAYS U BRACKET
08NGLE QUOTATION MARK
07PEAKER
13 WITH ONE SOUND WAVE
19THREE SOUND WAVES
09ECH BUBBLE
07QUARE BRACKET
20 EXTENSION
21LOWER CORNER
21UPPER CORNER
21WITH DOUBLE STROKE
26QUILL
26STROKE
26TICK IN BOTTOM CORNER
34TOP CORNER
26UNDERBAR
07UBSTITUTION BRACKET
06TACK
07HIRD WHITE RIGHT POINTING INDEX
08OUGHT BUBBLE
08REE EIGHTHS BLOCK
12QUARTERS BLOCK
07ORTOISE SHELL BRACKET
07RANSPOSITION BRACKET
08IANGLE
14 ABOVE LEFT TRIANGLE
12ULAR ONE QUARTER BLOCK
06VERTICAL BAR WITH QUILL
16OX LINE
06WHITE CORNER BRACKET
13URLY BRACKET
12LENTICULAR BRACKET
12PARENTHESIS
12SQUARE BRACKET
12TORTOISE SHELL BRACKET
07IGGLY FENCE
05-FACING ARMENIAN ETERNITY SIGN
13FIST
13SVASTI SIGN
24 WITH DOTS
06HANDED INTERLACED PENTAGRAM
06POINTING ANGLE BRACKET
15CURVED ANGLE BRACKET
15DOUBLE ANGLE QUOTATION MARK
15MAGNIFYING GLASS
06SHADED WHITE RIGHTWARDS ARROW
07IDE ARC CLOCKWISE ARROW
06TO-LEFT EMBEDDING
14ISOLATE
14MARK
14OVERRIDE
05HAND INTERIOR PRODUCT
05WARDS ARROW
16 ABOVE ALMOST EQUAL TO
23REVERSE ALMOST EQUAL TO
31TILDE OPERATOR
23SHORT LEFTWARDS ARROW
23TILDE OPERATOR
18ND UPPER AND LOWER ONE EIGHTH BLOCK
17FROM BAR
25 TO BLACK DIAMOND
17OVER LEFTWARDS ARROW
17THROUGH GREATER-THAN
25SUPERSET
25X
18O BAR
21LACK DIAMOND
17WITH CORNER DOWNWARDS
22DOTTED STEM
24UBLE VERTICAL STROKE
22EQUILATERAL ARROWHEAD
22HOOK
22LARGE TRIANGLE ARROWHEAD
23OOP
22MEDIUM TRIANGLE ARROWHEAD
22NOTCHED TAIL
22PLUS BELOW
22SMALL EQUILATERAL ARROWHEAD
28TRIANGLE ARROWHEAD
23TROKE
22TAIL
26 WITH DOUBLE VERTICAL STROKE
32VERTICAL STROKE
23IP DOWNWARDS
26UPWARDS
22VERTICAL STROKE
16-TAIL
11BACK-TILTED SHADOWED WHITE ARROW
12LACK ARROW
17CIRCLED WHITE ARROW
12OTTOM SHADED WHITE ARROW
11COMPRESSED ARROW
11DASHED ARROW
12OUBLE ARROW
23 FROM BAR
24WITH STROKE
29VERTICAL STROKE
23-TAIL
18DASH ARROW
11FINGER-POST ARROW
12RONT-TILTED SHADOWED WHITE ARROW
11HAND
13RPOON OVER LEFTWARDS HARPOON
19WITH BARB DOWN ABOVE LEFTWARDS HARPOON WITH BARB DOWN
34BELOW LONG DASH
34FROM BAR
34TO BAR
33WARDS
29UP ABOVE LEFTWARDS HARPOON WITH BARB UP
39ONG DASH
38RIGHTWARDS HARPOON WITH BARB DOWN
32FROM BAR
32TO BAR
31WARDS
12EAVY ARROW
17COMPRESSED ARROW
11LEFT-SHADED WHITE ARROW
11OPEN-HEADED ARROW
11PAIRED ARROWS
11QUADRUPLE ARROW
11RIGHT-SHADED WHITE ARROW
12OCKET
11SANS-SERIF ARROW
12QUARED ARROW
14IGGLE ARROW
11TOP SHADED WHITE ARROW
12RIANGLE ARROWHEAD
19-HEADED ARROW
32 OVER LEFTWARDS TRIANGLE-HEADED ARROW
33TO BAR
33WITH BOLD SHAFT
38DOUBLE HORIZONTAL STROKE
45VERTICAL STROKE
38HEAVY SHAFT
38LONG TIP DOWNWARDS
47UPWARDS
38MEDIUM SHAFT
38NARROW SHAFT
38VERY HEAVY SHAFT
27DASHED ARROW
27PAIRED ARROWS
14PLE ARROW
18DASH ARROW
12WO HEADED ARROW
14-HEADED ARROW FROM BAR
28WITH DOUBLE VERTICAL STROKE
33TAIL
37 WITH DOUBLE VERTICAL STROKE
43VERTICAL STROKE
34RIANGLE ARROWHEADS
33VERTICAL STROKE
22TRIPLE DASH ARROW
11WAVE ARROW
12HITE ARROW
22 FROM WALL
23WITHIN TRIANGLE ARROWHEAD
02NG
04 ABOVE
05BUOY
05EQUAL TO
05IN EQUAL TO
05OPERATOR
05POINT
04ED PLANET
04ING BELL
02SING DIAGONAL CROSSING FALLING DIAGONAL
25SOUTH EAST ARROW
01LE
02I
02M
02O
01OASTED SWEET POTATO
02BOT FACE
02CK
04ET
02LL OF PAPER
04ED-UP NEWSPAPER
05R COASTER
07SKATE
04ING ON THE FLOOR LAUGHING
02MAN AS SIGN
06CENTURIAL SIGN
06DENARIUS SIGN
07IMIDIA SEXTULA SIGN
07UPONDIUS SIGN
06NUMERAL EIGHT
15LEVEN
14FIFTY
19 EARLY FORM
20THOUSAND
16VE
18 HUNDRED
19THOUSAND
15OUR
14NINE
14ONE
17 HUNDRED
25 THOUSAND
18THOUSAND
26 C D
14REVERSED ONE HUNDRED
14SEVEN
15IX
17 LATE FORM
14TEN
17 THOUSAND
15HREE
15WELVE
16O
06QUINARIUS SIGN
06SEMUNCIA SIGN
08STERTIUS SIGN
08XTANS SIGN
10ULA SIGN
07ILIQUA SIGN
06UNCIA SIGN
02OSTER
02SE
04TTE
02TATED CAPITAL Q
08FLORAL HEART BULLET
08HEAVY BLACK HEART BULLET
08LIGHT FOUR POINTED BLACK CUSP
08WHITE FOUR POINTED CUSP
02UND PUSHPIN
06TARGET
05ED SYMBOL FOR CAI
19FU
19LU
19SHOU
21UANGXI
19XI
02WBOAT
01S
01UBLE SIGN
02GBY FOOTBALL
02LE-DELAYED
02MI DIGIT EIGHT
11FIVE
12OUR
11NINE
11ONE
11SEVEN
12IX
11THREE
12WO
05FRACTION ONE HALF
18QUARTER
18THIRD
14TWO THIRDS
05NUMBER EIGHT HUNDRED
17Y
12FIFTY
14VE HUNDRED
13ORTY
14UR HUNDRED
12NINE HUNDRED
16TY
12ONE HUNDRED
12SEVEN HUNDRED
17TY
13IX HUNDRED
15TY
12TEN
13HIRTY
14REE HUNDRED
13WENTY
14O HUNDRED
02NIC ARLAUG SYMBOL
06BELGTHOR SYMBOL
06CROSS PUNCTUATION
06LETTER AC A
14ESC
14LGIZ EOLHX
14NSUZ A
13BERKANAN BEORC BJARKAN B
13C
14ALC
14EALC
15N
14WEORTH
13D
14AGAZ DAEG D
14OTTED-L
20N
20P
13E
14AR
14HWAZ EH E
14NG
14TH
13FEHU FEOH FE F
14RANKS CASKET AC
28ESC
27EH
27IS
27OS
13G
14AR
14EBO GYFU G
15R
13HAEGL H
15GLAZ H
13ICELANDIC-YR
14NG
16WAZ
14OR
14SAZ IS ISS I
14WAZ EOH
13JERAN J
13K
14AUN K
17A
13LAUKAZ LAGU LOGR L
14ONG-BRANCH-AR AE
25HAGALL H
25MADR M
25OSS O
25YR
13MANNAZ MAN M
13NAUDIZ NYD NAUD N
13O
14E
14N
14O
14PEN-P
14S O
14THALAN ETHEL O
13PERTHO PEORTH P
13Q
13RAIDO RAD REID R
13SH
15ORT-TWIG-AR A
24BJARKAN B
24HAGALL H
24MADR M
24NAUD N
24OSS O
24SOL S
24TYR T
24YR
14IGEL LONG-BRANCH-SOL S
14OWILO S
14TAN
13THURISAZ THURS THORN
14IWAZ TIR TYR T
13URUZ UR U
13V
13W
14UNJO WYNN W
13X
13Y
14R
13Z
06MULTIPLE PUNCTUATION
06SINGLE PUNCTUATION
06TVIMADUR SYMBOL
03NER
04ING SHIRT WITH SASH
02PEE SIGN
02SSIAN ASTROLOGICAL SYMBOL BINOVILE
28NOVILE
28QUINTILE
28SENTAGON
28TREDECILE
28VIGINTILE
00S IN TRIANGLE
01AFETY PIN
07VEST
02GITTARIUS
02ILBOAT
02KE BOTTLE AND CUP
02LT SHAKER
04IRE
03UTING FACE
02MARITAN ABBREVIATION MARK
10LETTER ALAF
17BAA
18IT
17DALAT
17FI
17GAMAN
17IN
18T
18Y
17KAAF
17LABAT
17MIM
17NUN
17QUF
17RISH
17SHAN
18INGAAT
17TAAF
18IT
18SAADIY
17YUT
17ZEN
10MARK DAGESH
15EPENTHETIC YUT
15IN
17-ALAF
15NEQUDAA
15OCCLUSION
11ODIFIER LETTER EPENTHETIC YUT
26I
26SHORT A
10PUNCTUATION AFSAAQ
23NGED
24NAAU
23RKAANU
23TMAAU
22BAU
22MELODIC QITSA
22NEQUDAA
22QITSA
22SHIYYAALAA
23OF MASHFAAT
22TURU
22ZAEF
23IQAA
10VOWEL SIGN A
22A
21E
21I
21LONG A
27A
26E
26I
26U
21O
22VERLONG A
31A
21SHORT A
22UKUN
21U
02NDWICH
03S-SERIF HEAVY DOUBLE COMMA QUOTATION MARK ORNAMENT
24TURNED COMMA QUOTATION MARK ORNAMENT
17LOW DOUBLE COMMA QUOTATION MARK ORNAMENT
11INTERROBANG ORNAMENT
02RI
02TELLITE
09 ANTENNA
03URN
02URASHTRA CONSONANT SIGN HAARU
11DANDA
12IGIT EIGHT
17FIVE
18OUR
17NINE
17ONE
17SEVEN
18IX
17THREE
18WO
17ZERO
12OUBLE DANDA
11LETTER A
19A
19I
19U
18BA
19HA
18CA
19HA
18DA
19DA
20HA
19HA
18E
19E
18GA
19HA
18HA
18I
19I
18JA
19HA
18KA
19HA
18LA
19LA
18MA
18NA
19GA
19NA
19YA
18O
19O
18PA
19HA
18RA
18SA
19HA
19SA
18TA
19HA
19TA
20HA
18U
19U
18VA
19OCALIC L
27L
26R
27R
18YA
11SIGN ANUSVARA
16CANDRABINDU
16VIRAMA
18SARGA
11VOWEL SIGN AA
23I
23U
22E
23E
22I
23I
22O
23O
22U
23U
22VOCALIC L
31L
30R
31R
04OPOD
02XOPHONE
01CALES
03RF
02HOOL
06 SATCHEL
02I
02OOTER
03RPION
06US
02REEN
04WDRIVER
03IPT CAPITAL B
15E
15F
15H
15I
15L
15M
15P
15R
07LIGATURE ET ORNAMENT
07SMALL E
13G
13L
13O
03OLL
03UPLE
01EAL
03T
02COND PLACE MEDAL
03TION SIGN
04OR
02DNA
02E-NO-EVIL MONKEY
03DLING
02GMENT
07ED DIGIT EIGHT
16FIVE
17OUR
16NINE
16ONE
16SEVEN
17IX
16THREE
17WO
16ZERO
02LFIE
02MICOLON
04DIRECT PRODUCT WITH BOTTOM CLOSED
04SEXTILE
02PARATED SYMBOL
02RIOUS FACE WITH SYMBOLS COVERING MOUTH
03VICE MARK
02SAME DOT
03QUIQUADRATE
02T MINUS
04TRANSMIT STATE
02WING NEEDLE
02XTILE
01GC
01HADOWED WHITE CIRCLE
15LATIN CROSS
15STAR
03LLOW PAN OF FOOD
03MROCK
03RADA ABBREVIATION SIGN
08CONTINUATION SIGN
08DANDA
09IGIT EIGHT
14FIVE
15OUR
14NINE
14ONE
14SEVEN
15IX
14THREE
15WO
14ZERO
09OUBLE DANDA
08EKAM
09XTRA SHORT VOWEL MARK
08HEADSTROKE
08LETTER A
16A
16I
16U
15BA
16HA
15CA
16HA
15DA
16DA
17HA
16HA
15E
15GA
16HA
15HA
15I
16I
15JA
16HA
15KA
16HA
15LA
16LA
15MA
15NA
16GA
16NA
16YA
15O
15PA
16HA
15RA
15SA
16HA
16SA
15TA
16HA
16TA
17HA
15U
16U
15VA
16OCALIC L
24L
23R
24R
15YA
08OM
08SANDHI MARK
09ECTION MARK-1
212
10PARATOR
09IGN ANUSVARA
14VAGRAHA
13CANDRABINDU
13INVERTED CANDRABINDU
13JIHVAMULIYA
13NUKTA
13SIDDHAM
13UPADHMANIYA
13VIRAMA
15SARGA
09UTRA MARK
08VOWEL MODIFIER MARK
14SIGN AA
20I
20U
19E
19I
20I
19O
19PRISHTHAMATRA E
19U
20U
19VOCALIC L
28L
27R
28R
04K
03VED ICE
04IAN LETTER ADO
16GE
16H
16IR
16RE
17RAY
16SH
16WE
15BIB
15CHURCH
15DEAD
15EAR
17T
16GG
16RR
15FEE
15GAG
15HA-HA
16UNG
15IAN
16CE
16F
15JUDGE
15KICK
15LOLL
15MEASURE
16IME
15NUN
15OAK
16IL
16N
16OZE
16R
16UT
15PEEP
15ROAR
15SO
16URE
15THEY
17IGH
16OT
15UP
15VOW
15WOE
17OL
15YEA
17W
15ZOO
02EEP
02IELD
03FT IN
06OUT
03NTO SHRINE
03P
02OCKED FACE WITH EXPLODING HEAD
03OTING STAR
03PPING BAGS
09TROLLEY
03RT BACKSLANTED SOUTH ARROW
07ENT ARROW POINTING DOWNWARDS THEN NORTH EAST
06DOWN TACK
15 WITH OVERBAR
06LEFT TACK
06RIGHTWARDS ARROW ABOVE LEFTWARDS ARROW
06SLANTED NORTH ARROW
06UP TACK
13 ABOVE SHORT DOWN TACK
14WITH UNDERBAR
05CAKE
05HAND FORMAT CONTINUING OVERLAP
17DOWN STEP
17LETTER OVERLAP
17UP STEP
05S
03ULDERED OPEN BOX
03WER
02RIMP
03UG
02UFFLE PRODUCT
02Y
01I
02DDHAM DANDA
09OUBLE DANDA
08END OF TEXT MARK
08LETTER A
16A
16I
16LTERNATE U
16U
15BA
16HA
15CA
16HA
15DA
16DA
17HA
16HA
15E
15GA
16HA
15HA
15I
16I
15JA
16HA
15KA
16HA
15LA
15MA
15NA
16GA
16NA
16YA
15O
15PA
16HA
15RA
15SA
16HA
16SA
15TA
16HA
17REE-CIRCLE ALTERNATE I
16TA
17HA
16WO-CIRCLE ALTERNATE I
37I
15U
16U
15VA
16OCALIC L
24L
23R
24R
15YA
08REPETITION MARK-1
242
243
08SECTION MARK DOUBLE RING
32 WITH RAYS
21WITH CIRCLES AND FOUR ENCLOSURES
38RAYS
38TWO ENCLOSURES
26DOUBLE CRESCENTS
26QUADRUPLE CRESCENTS
26RAYS AND DOTTED CRESCENTS
42DOUBLE CRESCENTS
42TRIPLE CRESCENTS
26SEPTUPLE CRESCENTS
26TRIDENT AND DOTTED CRESCENTS
38U-SHAPED ORNAMENTS
29PLE CRESCENTS
10PARATOR BAR
18DOT
09IGN ANUSVARA
13CANDRABINDU
13NUKTA
13SIDDHAM
13VIRAMA
15SARGA
08VOWEL SIGN AA
20I
20LTERNATE U
30U
20U
19E
19I
20I
19O
19U
20U
19VOCALIC R
28R
03EWAYS BLACK DOWN POINTING INDEX
15LEFT POINTING INDEX
15RIGHT POINTING INDEX
15UP POINTING INDEX
09WHITE DOWN POINTING INDEX
15LEFT POINTING INDEX
15RIGHT POINTING INDEX
15UP POINTING INDEX
02GN OF THE HORNS
04WRITING AIR BLOW SMALL ROTATIONS
20ING OUT
16SUCK SMALL ROTATIONS
20ING IN
12BREATH EXHALE
19INHALE
14USH BETWEEN
18MULTIPLE
18SINGLE
12CHEEKS NEUTRAL
19PUFFED
19SUCKED
13OLON
14MMA
12DREAMY EYEBROWS DOWN NEUTRAL
28NEUTRAL DOWN
36UP
28UP NEUTRAL
13YNAMIC ARROWHEAD LARGE
30SMALL
20EVERY OTHER TIME
20FAST
20GRADUAL
20RELAXED
20SIMULTANEOUS
32 ALTERNATING
21LOW
20TENSE
12EARS
13XCITEMENT
13YE BLINK MULTIPLE
22SINGLE
16WINK
15BROWS STRAIGHT DOWN
30NEUTRAL
30UP
15GAZE-FLOORPLANE CURVED
31STRAIGHT
39 ALTERNATING
40DOUBLE
20WALLPLANE CIRCLING
31URVED
30STRAIGHT
38 ALTERNATING
39DOUBLE
15LASHES DOWN
22FLUTTERING
22UP
15S CLOSED
17HALF CLOSED
22OPEN
17OPEN
17SQUEEZED
17WIDE OPEN
21NING MOVEMENT
12FACE DIRECTION POSITION NOSE FORWARD TILTING
41UP OR DOWN
51 TILTING
13ILL MODIFIER-2
263
264
265
266
14NGER
13LICK LARGE MULTIPLE
24SINGLE
18SEQUENTIAL
19MALL MULTIPLE
24SINGLE
14OORPLANE SHOULDER HIP MOVE
13OREHEAD CONTACT
21NEUTRAL
21WRINKLED
13ULL STOP
12GRASP BETWEEN
18MULTIPLE
18SINGLE
12HAIR
14ND-ANGLE
22 INDEX
28 MIDDLE LITTLE
36RING
29RING LITTLE
40 OUT
29THUMB
34 IN
35OUT
23LITTLE INDEX
35 THUMB INDEX THUMB
53 OUT
30UP
23MIDDLE RING LITTLE
41 IN
42OUT
23RING DOWN MIDDLE THUMB INDEX CROSS
28LITTLE
17CIRCLE
23 INDEX
29 BENT
30HINGE
30MIDDLE
36 CROSS LITTLE
42ED
37LITTLE
37RING
37THUMB
30RING LITTLE
24LITTLE INDEX
31UP
24MIDDLE RING LITTLE
42 BENT
31UP
24RING LITTLE
18LAW
21 FOUR FINGERS CONJOINED
22INDEX THUMB CURVE THUMB INSIDE
22MIDDLE RING LITTLE CONJOINED
50 SIDE
22NO THUMB
22THUMB FORWARD
28SIDE
18UP
20 FIVE FINGERS SPREAD
40 OPEN
21INDEX
26 RING LITTLE
27THUMB
32 OPEN
21MIDDLE RING LITTLE
21NO THUMB
21OPEN
25 NO THUMB
26THUMB FORWARD
32SIDE
21THUMB FORWARD
27SIDE
19RLICUE
25 INDEX RING LITTLE ON
26MIDDLE RING LITTLE ON
26OPEN
17FIST
21 FOUR FINGERS CONJOINED BENT
22HEEL
22INDEX
27 BENT
32 OVER MIDDLE
28CUPPED
28HINGED
34 LOW
35MIDDLE UP
44 THUMB SIDE
28MIDDLE
34 BENT
39 THUMB STRAIGHT
35CONJOINED
44 CUPPED
51 THUMB FORWARD
45HINGED
51 THUMB SIDE
45INDEX BENT
45MIDDLE BENT
45THUMB FORWARD
51SIDE
55 BENT
56CONJOINED
36ROSS LITTLE
40ED
42 THUMB SIDE
35HINGED
41 SPREAD THUMB SIDE
35LITTLE
35RAISED KNUCKLES
36ING
39 BENT
40CONJOINED
35STRAIGHT THUMB BENT
35THUMB
40 ANGLED
47 OUT
41BENT
41CIRCLED
42ONJOINED HINGED
42UPPED
41HINGED
42OOKED
35UP SPREAD THUMB FORWARD
28RAISED KNUCKLE
29ING LITTLE
28THUMB ANGLED IN MIDDLE UP
41OUT MIDDLE UP
34CIRCLE
40D MIDDLE UP
35UPPED MIDDLE UP
36RLICUE
37VE THUMB INSIDE
46UNDER
34FORWARD INDEX BENT
48STRAIGHT
34HOOK
38ED MIDDLE HINGED
48UP
34SIDE
38 BOTH BENT
39INDEX BENT
45HINGE
39THUMB BENT
45CONJOINED
45DIAGONAL
28UP MIDDLE HINGED
44 THUMB CONJOINED
51SIDE
22LITTLE BENT
29DOWN
33 OTHERS CIRCLED
34RIPPLE CURVED
41STRAIGHT
29INDEX
34 THUMB
29RAISED KNUCKLE
29THUMB
30OUCHES THUMB
29UP
22MIDDLE BENT OVER INDEX
29DOWN
29LITTLE
29RAISED KNUCKLE
30ING LITTLE
29THUMB ANGLED INDEX UP
42OUT INDEX CROSSED
52UP
35CIRCLED INDEX HINGED
49UP
36UPPED INDEX UP
35HOOKED INDEX UP
35LITTLE
29UP
31 THUMB SIDE
22RING DOWN
27INDEX
27LITTLE
27MIDDLE
33 CONJOINED
34RAISED KNUCKLES
27RAISED KNUCKLE
27THUMB
27UP
22THUMB
27 BETWEEN INDEX MIDDLE
48 STRAIGHT
36MIDDLE RING
36RING LITTLE
28FORWARD
28HEEL
28OVER FOUR RAISED KNUCKLES
33TWO FINGERS
28SIDE BENT
33CONJOINED
33DIAGONAL
28UNDER FOUR FINGERS
34INDEX BENT
34LITTLE UP
34THREE FINGERS
35WO FINGERS
18LAT
21 BETWEEN PALM FACINGS
22FIVE FINGERS SPREAD
41 BENT
42FOUR BENT
42HINGED
48 NO THUMB
49THUMB SIDE
42THUMB FORWARD
23OUR FINGERS
34 BENT
35CONJOINED
44 SPLIT
35HINGED
22HEEL
26 FIVE FINGERS SPREAD
46 BENT
47FOUR BENT
27THUMB SIDE
22SPLIT CENTRE
34 THUMB SIDE
45 BENT
28INDEX THUMB SIDE
28LITTLE
22THUMB BENT
28FORWARD
28SIDE
17HINGE
22 FIVE FINGERS SPREAD OPEN
24OUR FINGERS CONJOINED
23INDEX
28 HINGED
29MIDDLE LITTLE
36RING
40 CONJOINED
29RING LITTLE
29THUMB
34 LARGE
35OPEN
35SIDE
36MALL
23LITTLE
29 INDEX
35 THUMB
30THUMB
23MIDDLE
29 RING LITTLE
23NO THUMB
23OPEN
27 NO THUMB
28THUMB FORWARD
34SIDE
23RING
27 DOWN INDEX THUMB HOOK MIDDLE
23SMALL
23THUMB BETWEEN MIDDLE RING
29SIDE
33 TOUCHING INDEX
18OOK
21 CURLICUE
22INDEX RING LITTLE IN
40OUT
40UNDER
22MIDDLE RING LITTLE CONJOINED
50 IN
51OUT
29THUMB
22RING THUMB
17OVAL
21 FIVE FINGERS SPREAD
22INDEX
22LITTLE UP
22NO THUMB
22RING LITTLE
22THUMB FORWARD
28SIDE
13EAD
16 MOVEMENT CIRCLE
25-FLOORPLANE CURVE
37STRAIGHT
26WALLPLANE CURVE
36STRAIGHT
36TILT
17RIM
12LIMB COMBINATION
17LENGTH-1
242
243
244
245
246
247
14P LOWER OVER UPPER
16UPPER OVER LOWER
15S PRESSED TOGETHER
13OCATION DEPTH
21HEAD NECK
23IGHT
21LIMBS DIGITS
21TORSO
21WIDTH
20-FLOORPLANE SPACE
21WALLPLANE SPACE
12MOUTH CLOSED CONTACT
25FORWARD
25NEUTRAL
19ORNERS
18FROWN
23 OPEN
24WRINKLED
18KISS
22 FORWARD
23WRINKLED
18OPEN CIRCLE
23FORWARD
23OVAL
27 WRINKLED
28YAWN
23RECTANGLE
32 WRINKLED
33YAWN
23WRINKLED
18SMILE
23 OPEN
24WRINKLED
18TENSE
23 FORWARD
24SUCKED
18WRINKLES DOUBLE
27SINGLE
14VEMENT-DIAGONAL AWAY LARGE
40ST
35MEDIUM
35SMALL
30BETWEEN AWAY LARGE
48ST
43MEDIUM
43SMALL
38TOWARDS LARGE
51ST
46MEDIUM
46SMALL
30TOWARDS LARGE
43ST
38MEDIUM
38SMALL
21FLOORPLANE ARM CIRCLE HITTING WALL LARGE DOUBLE
62SINGLE
56MEDIUM DOUBLE
63SINGLE
56SMALL DOUBLE
62SINGLE
32BEND
33OX LARGE
36MEDIUM
36SMALL
32CHECK
33ORNER LARGE
39MEDIUM
39SMALL
33ROSS
33URVE COMBINED
38HITTING CEILING LARGE
54SMALL
46FLOOR LARGE
52SMALL
38LARGE
43ST
38MEDIUM
38SMALL
32DOUBLE ALTERNATING
50 WRIST FLEX
39STRAIGHT
39WRIST FLEX
32FINGER CIRCLES HITTING WALL DOUBLE
60SINGLE
40ONTACT
32HUMP HITTING CEILING LARGE DOUBLE
59TRIPLE
53SMALL DOUBLE
59TRIPLE
45FLOOR LARGE DOUBLE
51SMALL DOUBLE
51TRIPLE LARGE TRIPLE
58SMALL TRIPLE
37SMALL
32JAW
32LOOP HITTING CEILING LARGE DOUBLE
59SINGLE
53SMALL DOUBLE
59SINGLE
45FLOOR LARGE DOUBLE
57SINGLE
51SMALL DOUBLE
57SINGLE
37SMALL
32PEAKS LARGE
38MEDIUM
38SMALL
32SHAKING PARALLEL
33INGLE STRAIGHT LARGE
53ST
48MEDIUM
48SMALL
39WRIST FLEX
32TRIPLE ALTERNATING MOVEMENT
51WRIST FLEX
39STRAIGHT MOVEMENT
39WRIST FLEX
32WAVE HITTING CEILING LARGE
53SMALL
45FLOOR LARGE
51SMALL
37LARGE
37SMALL
38NAKE
33RIST CIRCLE HITTING WALL DOUBLE
58SINGLE
32ZIGZAG LARGE
39MEDIUM
39SMALL
21HINGE DOWN SEQUENTIAL
27SIDE TO SIDE SCISSORS
27UP DOWN ALTERNATING LARGE
47SMALL
35LARGE
35SMALL
30SEQUENTIAL
21WALLPLANE ARM CIRCLE MEDIUM DOUBLE
49SINGLE
42SMALL DOUBLE
48SINGLE
31BEND LARGE
36MEDIUM
36SMALL
32OX LARGE
35MEDIUM
35SMALL
31CHECK LARGE
37MEDIUM
37SMALL
32ORNER LARGE
38MEDIUM
38ROTATION
38SMALL
32ROSS
32URVE HALF-CIRCLE LARGE
54ST
49MEDIUM
49SMALL
38ITTING CHEST
45FRONT WALL
37QUARTER LARGE
50ST
45MEDIUM
45SMALL
37THEN STRAIGHT
39REE-QUARTER CIRCLE MEDIUM
58SMALL
36D CROSS MEDIUM
44SMALL
31DOUBLE ALTERNATING
49 WRIST FLEX
38STRAIGHT
38WRIST FLEX
31FINGER CIRCLES DOUBLE
46SINGLE
39ONTACT
31HUMP HITTING CHEST
44FRONT WALL
36LARGE
36MEDIUM
36SMALL
31JAW
31LOOP HITTING CHEST
44FRONT WALL
36LARGE
36MEDIUM
36SMALL
41 DOUBLE
31PEAKS LARGE
37MEDIUM
37SMALL
31SHAKING
32INGLE STRAIGHT LARGE
52ST
47MEDIUM
47SMALL
38WRIST FLEX
31TRIPLE ALTERNATING
49 WRIST FLEX
38STRAIGHT MOVEMENT
38WRIST FLEX
31WAVE CURVE DOUBLE LARGE
49MEDIUM
49SMALL
42TRIPLE LARGE
49MEDIUM
49SMALL
36DIAGONAL PATH LARGE
50MEDIUM"

/-- Names from `SIGNWRITING MOVEMENT-WALLPLANE WAVE DIAGONAL PATH SMALL` on. -/
def namesG : String :=
"00SIGNWRITING MOVEMENT-WALLPLANE WAVE DIAGONAL PATH SMALL
36HITTING CHEST
44FRONT WALL
32RIST CIRCLE FRONT DOUBLE
50SINGLE
31ZIGZAG LARGE
38MEDIUM
38SMALL
12NECK
13OSE CONTACT
17NEUTRAL
17WIGGLES
18RINKLES
12PARENTHESIS
12ROTATION MODIFIER-10
311
312
313
314
315
316
302
303
304
305
306
307
308
309
20-FLOORPLANE ALTERNATING
43 HITTING CEILING
52FLOOR
32DOUBLE
38 HITTING CEILING
47FLOOR
32SINGLE
38 HITTING CEILING
47FLOOR
21WALLPLANE ALTERNATE
39ING HITTING CHEST
51FRONT WALL
31DOUBLE
37 HITTING CHEST
46FRONT WALL
31SINGLE
37 HITTING CHEST
46FRONT WALL
13UB BETWEEN
16MULTIPLE
16SINGLE
12SEMICOLON
13HOULDER HIP POSITIONS
25SPINE
21TILTING FROM WAIST
13QUEEZE FLICK ALTERNATING
20LARGE MULTIPLE
26SINGLE
20SEQUENTIAL
21MALL MULTIPLE
26SINGLE
13TRIKE BETWEEN
19MULTIPLE
19SINGLE
13URFACE BETWEEN
20SYMBOLS
12TEETH
17 BITE LIPS
18MOVEMENT
18ON LIPS
25 MOVEMENT
21TONGUE
27 MOVEMENT
14NSE CHEEKS HIGH
25LOW
25MIDDLE
13ONGUE CENTRE INSIDE MOUTH
26STICKING OUT
19INSIDE MOUTH RELAXED
19LICKING LIPS
19MOVES AGAINST CHEEK
19STICKING OUT FAR
19TIP BETWEEN LIPS
23TOUCHING INSIDE MOUTH
14RSO-FLOORPLANE TWISTING
18WALLPLANE CURVED BEND
28STRAIGHT STRETCH
14UCH BETWEEN
18MULTIPLE
18SINGLE
13RAVEL-FLOORPLANE ROTATION-FLOORPLANE ALTERNATING
50DOUBLE
50SINGLE
39WALLPLANE ALTERNATING
49DOUBLE
49SINGLE
30SHAKING
19WALLPLANE ARM SPIRAL DOUBLE
40SINGLE
40TRIPLE
29ROTATION-FLOORPLANE ALTERNATING
49DOUBLE
49SINGLE
38WALLPLANE ALTERNATING
48DOUBLE
48SINGLE
29SHAKING
12UPPER BODY TILTING FROM HIP JOINTS
12WALLPLANE SHOULDER HIP MOVE
02LHOUETTE OF JAPAN
02MILAR ABOVE GREATER-THAN ABOVE EQUALS SIGN
14LESS-THAN ABOVE EQUALS SIGN
08MINUS SIMILAR
08OR GREATER-THAN
11LESS-THAN
02NE WAVE
03GLE CHARACTER INTRODUCER
07GRAPHIC CHARACTER INTRODUCER
07HIGH-REVERSED-9 QUOTATION MARK
07LEFT-POINTING ANGLE QUOTATION MARK
08OW-9 QUOTATION MARK
07RIGHT-POINTING ANGLE QUOTATION MARK
07SHIFT THREE
14WO
06-SHIFT-2
133
03HALA ARCHAIC DIGIT EIGHT
22FIVE
23OUR
22NINE
22ONE
22SEVEN
23IX
22THREE
23WO
16NUMBER EIGHTY
23FIFTY
24ORTY
23NINETY
23ONE HUNDRED
27THOUSAND
23SEVENTY
24IXTY
23TEN
24HIRTY
24WENTY
08LETTER AAYANNA
16EEYANNA
17YANNA
16IYANNA
16LPAPRAANA BAYANNA
26CAYANNA
26DAYANNA
27DAYANNA
26GAYANNA
26JAYANNA
26KAYANNA
26PAYANNA
26TAYANNA
27TAYANNA
16MBA BAYANNA
16UYANNA
16YANNA
15DANTAJA LAYANNA
23NAYANNA
23SAYANNA
15EEYANNA
16YANNA
15FAYANNA
15HAYANNA
15IIYANNA
16LUUYANNA
18YANNA
16RUUYANNA
18YANNA
16YANNA
15KANTAJA NAASIKYAYA
15MAHAAPRAANA BAYANNA
27CAYANNA
27DAYANNA
28DAYANNA
27GAYANNA
27JAYANNA
27KAYANNA
27PAYANNA
27TAYANNA
28TAYANNA
17YANNA
16UURDHAJA LAYANNA
25NAYANNA
25SAYANNA
15OOYANNA
16YANNA
15RAYANNA
15SANYAKA DAYANNA
24DAYANNA
23GAYANNA
23JAYANNA
15TAALUJA NAASIKYAYA
23SANYOOGA NAAKSIKYAYA
25YANNA
15UUYANNA
16YANNA
15VAYANNA
15YAYANNA
09ITH DIGIT EIGHT
19FIVE
20OUR
19NINE
19ONE
19SEVEN
20IX
19THREE
20WO
19ZERO
08PUNCTUATION KUNDDALIYA
08SIGN AL-LAKUNA
14NUSVARAYA
13CANDRABINDU
13VISARGAYA
08VOWEL SIGN AELA-PILLA
19DIGA AEDA-PILLA
24GAETTA-PILLA
26YANUKITTA
24IS-PILLA
24KOMBUVA
24PAA-PILLA
19GAETTA-PILLA
21YANUKITTA
19KETTI AEDA-PILLA
25IS-PILLA
25PAA-PILLA
20OMBU DEKA
24VA
26 HAA AELA-PILLA
31DIGA AELA-PILLA
31GAYANUKITTA
02X PETALLED BLACK AND WHITE FLORETTE
05OINTED BLACK STAR
12PINWHEEL STAR
12STAR WITH MIDDLE DOT
03-PER-EM SPACE
03TEEN POINTED ASTERISK
01KATEBOARD
02I AND SKI BOOT
03ER
02ULL
05 AND CROSSBONES
03NK
01LANTED EQUAL TO OR GREATER-THAN
32 WITH DOT INSIDE
20LESS-THAN
29 WITH DOT INSIDE
08NORTH ARROW WITH HOOKED HEAD
27RIZONTAL TAIL
03VONIC ASTERISK
02ED
03EPING ACCOMMODATION
09FACE
09SYMBOL
05Y FACE
03UTH OR SPY
02ICE OF PIZZA
03GHTLY FROWNING FACE
09SMILING FACE
02OPE
04ING LARGE AND
14OR
03T MACHINE
04H
01MALL AIRPLANE
07MPERSAND
07STERISK
06BLUE DIAMOND
06COLON
08MMA
10ERCIAL AT
08NTAINS AS MEMBER
15WITH OVERBAR
20VERTICAL BAR AT END OF HORIZONTAL STROKE
06DOLLAR SIGN
06ELEMENT OF
16 WITH OVERBAR
22VERTICAL BAR AT END OF HORIZONTAL STROKE
07M DASH
07QUALS SIGN
07XCLAMATION MARK
06FULL STOP
06GREATER-THAN SIGN
06HYPHEN-MINUS
06IDEOGRAPHIC COMMA
06LEFT CURLY BRACKET
11PARENTHESIS
11TORTOISE SHELL BRACKET
08SS-THAN SIGN
06NUMBER SIGN
06ORANGE DIAMOND
06PERCENT SIGN
07LUS SIGN
06QUESTION MARK
06REVERSE SOLIDUS
07IGHT CURLY BRACKET
12PARENTHESIS
12TORTOISE SHELL BRACKET
07OMAN NUMERAL EIGHT
21LEVEN
20FIFTY
22VE
24 HUNDRED
21OUR
20NINE
20ONE
23 HUNDRED
24THOUSAND
20SEVEN
21IX
20TEN
21HREE
21WELVE
22O
06SEMICOLON
06TILDE
07WO DOTS OVER ONE DOT PUNCTUATION
06VEE WITH UNDERBAR
05ER THAN
12 OR EQUAL TO
03SH PRODUCT
02ILE
04ING CAT FACE WITH HEART-SHAPED EYES
22OPEN MOUTH
08FACE WITH HALO
19EART-SHAPED EYES
19ORNS
18OPEN MOUTH
28 AND COLD SWEAT
33SMILING EYES
33TIGHTLY-CLOSED EYES
18SMILING EYES
30 AND HAND COVERING MOUTH
35THREE HEARTS
19UNGLASSES
18TEAR
03RKING FACE
02OKING SYMBOL
01NAIL
03KE
02EEZING FACE
02OW CAPPED MOUNTAIN
04BOARDER
04FLAKE
04MAN
07 WITHOUT SNOW
01O
02CCER BALL
03KS
02FT HYPHEN
05ICE CREAM
05SHELL FLOPPY DISK
04BALL
04WARE-FUNCTION SYMBOL
02GDIAN COMBINING CURVE ABOVE
24BELOW
18DOT ABOVE
22BELOW
18HOOK ABOVE
23BELOW
18LONG HOOK BELOW
18RESH BELOW
18STROKE BELOW
18TWO DOTS ABOVE
27BELOW
08INDEPENDENT SHIN
08LETTER ALEPH
16YIN
15BETH
15FETH
15GIMEL
15HE
17TH
15KAPH
15LAMEDH
16ESH
15MEM
15NUN
15PE
15RESH-AYIN
15SADHE
17MEKH
16HIN
15TAW
15WAW
15YODH
15ZAYIN
08NUMBER ONE
18 HUNDRED
15TEN
16WENTY
08PUNCTUATION CIRCLE WITH DOT
20HALF CIRCLE WITH DOT
20TWO CIRCLES WITH DOTS
24VERTICAL BARS
37 WITH DOTS
02H
02LID QUILT SQUARE ORNAMENT
27 IN BLACK SQUARE
05US
07 WITH OVERBAR
02M SIGN
02ON WITH RIGHTWARDS ARROW ABOVE
02RA SOMPENG DIGIT EIGHT
19FIVE
20OUR
19NINE
19ONE
19SEVEN
20IX
19THREE
20WO
19ZERO
13LETTER AH
20BAH
20CAH
20DAH
20EEH
21H
20GAH
20HAH
20IH
20JAH
20KAH
20LAH
20MAE
22H
20NAH
21GAH
21YAH
20OH
20PAH
20RAH
20SAH
20TAH
20UH
20VAH
20YAH
02S
02UND RECORDING COPYRIGHT
03TH EAST ARROW
16 AND SOUTH WEST ARROW
17CROSSING NORTH EAST ARROW
17TO CORNER
17WITH HOOK
11BLACK ARROW
11DOUBLE ARROW
11POINTING BUD
20LEAF
20VINE LEAF
11SANS-SERIF ARROW
11TRIANGLE-HEADED ARROW
32 TO BAR
11WHITE ARROW
06WEST ARROW
16 AND NORTH WEST ARROW
17WITH HOOK
11BLACK ARROW
11DOUBLE ARROW
11POINTING BUD
20LEAF
20VINE LEAF
11SANS-SERIF ARROW
11TRIANGLE-HEADED ARROW
32 TO BAR
11WHITE ARROW
02YOMBO CLUSTER-INITIAL LETTER LA
31RA
31SA
32HA
08FINAL CONSONANT SIGN -A
29B
29D
29G
29K
29L
29M
29N
30G
29R
29S
30H
08GEMINATION MARK
08HEAD MARK WITH MOON AND SUN
35 AND FLAME
40TRIPLE FLAME
08LETTER -A
15A
15BA
16HA
15CA
16HA
15DA
16DA
17HA
16HA
16ZA
15GA
16HA
15HA
15JA
16HA
15KA
16HA
16SSA
15LA
15MA
15NA
16GA
16NA
16YA
15PA
16HA
15RA
15SA
16HA
16SA
15TA
16HA
16SA
17HA
16TA
17HA
15VA
15YA
15ZA
16HA
08MARK DOUBLE SHAD
13PLUTA
13SHAD
13TSHEG
08SIGN ANUSVARA
13JIHVAMULIYA
13UPADHMANIYA
13VISARGA
09UBJOINER
08TERMINAL MARK-1
222
08VOWEL LENGTH MARK
14SIGN AI
20U
19E
19I
19O
20E
19U
20E
19VOCALIC L
27R
01P
02A
03CE
03GHETTI
03RKLE
07S
06ING HEART
02EAK-NO-EVIL MONKEY
05ER
07 WITH CANCELLATION STROKE
13ONE SOUND WAVE
13THREE SOUND WAVES
05ING HEAD IN SILHOUETTE
03ECH BALLOON
04DBOAT
03SMILO SIGN
02HERICAL ANGLE
15 OPENING LEFT
24UP
02IDER
06 WEB
03RAL CALENDAR PAD
07NOTE PAD
07SHELL
02LASHING SWEAT SYMBOL
02ONGE
03OL OF THREAD
04N
03RTS MEDAL
03UTING WHALE
01QUARE A OVER M
08ARU
08M
08NPEA
08PAATO
08RUHUA
08U
07BAARERU
09R
08EETA
08IRU
08ORUTO
08Q
08USSYERU
07C OVER KG
08AL
09P
08C
08D
08M
09 CUBED
10SQUARED
08O
09RPORATION
08UP
07DA
09ASU
08B
08ESI
08J
08L
08M
09 CUBED
10SQUARED
08ORU
07EEKAA
08RA NAME HEISEI
16MEIZI
16REIWA
16SYOUWA
16TAISYOU
09G
08SUKUUDO
08V
07FM
08OOT
09UR CORNERS
07GAL
09NMA
09RON
08B
08HZ
08IGA
09NII
09RUDAA
08PA
08URAMU
13TON
08Y
07HA
09ITU
08EKUTAARU
09RUTU
08G
08IRAGANA HOKA
08ON
09ON
10RU
08P
09A
08UARADDO
09IITO
09RAN
08Z
07IMAGE OF
15 OR EQUAL TO
19NOT EQUAL TO
08N
09INGU
09TI
08U
07K OHM
08A
09IRI
09RATTO
10ORII
08B
08CAL
08EESU
08G
08HZ
08IRO
11GURAMU
11MEETORU
11WATTO
08K
08L
08M
09 CAPITAL
11UBED
10SQUARED
08OOPO
09RUNA
08PA
08T
08UROONE
10UZEIRO
08V
08W
08YURII
07LEFT OPEN BOX OPERATOR
08M
08N
08OG
09ZENGE
08X
07M CUBED
09OHM
10VER S
15 SQUARED
09SQUARED
08A
09HHA
09IKURO
10RU
09NSYON
09RUKU
08B
09 SMALL
08EETORU
09GA
11TON
08G
08HZ
08IKURON
09L
09RI
11BAARU
08L
08M
09 CUBED
10SQUARED
08OL
08PA
08S
08U A
10F
10G
10L
10M
10S
10V
10W
08V
09 MEGA
08W
09 MEGA
07NA
09NO
08F
08M
08OTTO
08S
08V
08W
07ONSU
08OMU
08RIGINAL OF
18 OR EQUAL TO
22NOT EQUAL TO
08V
07PA
09 AMPS
09ASENTO
10TU
08C
08EEZI
09NIHI
10SU
09SO
08F
08H
08IASUTORU
09KO
10URU
08M
08OINTO
09NDO
09SITION INDICATOR
08PM
08R
08S
08V
08W
07RAD
10 OVER S
17 SQUARED
08EMU
09NTOGEN
08IGHT OPEN BOX OPERATOR
09RA
09TTORU
08OOT
08UPII
09UBURU
07SAIKURU
09NTIIMU
08ENTI
11O
08IRINGU
08R
08V
07TARGET
08HZ
08ON
07UON
07V OVER M
07WATTO
08B
08ITH BOTTOM HALF BLACK
12CONTOURED OUTLINE
12DIAGONAL CROSSHATCH FILL
12HORIZONTAL FILL
12LEFT HALF BLACK
13OWER LEFT DIAGONAL HALF BLACK
18RIGHT DIAGONAL HALF BLACK
12ORTHOGONAL CROSSHATCH FILL
12RIGHT HALF BLACK
12TOP HALF BLACK
12UPPER LEFT DIAGONAL HALF BLACK
23TO LOWER RIGHT FILL
18RIGHT DIAGONAL HALF BLACK
24TO LOWER LEFT FILL
12VERTICAL FILL
07YAADO
10RU
08UAN
06D ASTERISK
08CJK UNIFIED IDEOGRAPH-4E00
339
322D
328C
32A4
30518D
3121D
324D
3272
313CC
32F3
31408
3239
315B6
318F0
3191A
3229
31B57
31DE6
31F8C
30624B
3253
3295
31307
3255
31599
32B0
31620
31708
339
31E80
31F14
307121
3151F
3233
31981
31A7A
31D42
3089E3
31CA9
31D70
30904A
3114D
09L
09OOL
08DOT OPERATOR
08EIGHT K
08FALLING DIAGONAL SLASH
09IVE POINT ONE
09OUR DOT PUNCTUATION
13K
09REE
08HC
09DR
09I-RES
09V
08ID
08KATAKANA DE
17KOKO
17SA
09EY
08LATIN CAPITAL LETTER A
29B
29C
29D
29E
29F
29G
29H
29I
29J
29K
29L
29M
29N
29O
29P
29Q
29R
29S
29T
29U
29V
29W
29X
29Y
29Z
14SMALL LETTER D
09OGICAL AND
16OR
10SSLESS
08MINUS
09V
08NEW
09G
08OK
09NE HUNDRED TWENTY P
08PLUS
09PV
08RISING DIAGONAL SLASH
08SALTIRE
09D
09ECOND SCREEN
10VEN POINT ONE
09HV
09IXTY P
09MALL CIRCLE
09OS
09QUARE
09S
08THREE D
09IMES
09WENTY-TWO POINT TWO
10O K
08UHD
09P WITH EXCLAMATION MARK
08VOD
09S
08WC
04T BLACK RIGHTWARDS ARROW
03ID
01S2
023
02A
01T
02ADIUM
03FF OF AESCULAPIUS
09HERMES
03MPED ENVELOPE
03NDING PERSON
03R AND CRESCENT
05EQUALS
05OF DAVID
06PERATOR
05WITH LEFT HALF BLACK
10RIGHT HALF BLACK
04T OF GUARDED AREA
09HEADING
09PROTECTED AREA
09SELECTED AREA
10TRING
09TEXT
03TION
04UE OF LIBERTY
02EAM LOCOMOTIVE
05ING BOWL
03NOGRAPHIC FULL STOP
03THOSCOPE
02ICK FIGURE
12 LEANING LEFT
21RIGHT
13WITH ARMS RAISED
18DRESS
02OCK CHART
03PWATCH
02RAIGHT RULER
08NESS
04WBERRY
03ESS OUTLINED WHITE STAR
03ICTLY EQUIVALENT TO
04NG TERMINATOR
02S
02UDIO MICROPHONE
03FFED FLATBREAD
03PA
02X
01UB
03SCRIPT EIGHT
11QUALS SIGN
10FIVE
11OUR
10LEFT PARENTHESIS
10MINUS
10NINE
10ONE
10PLUS SIGN
10RIGHT PARENTHESIS
10SEVEN
11IX
10THREE
11WO
10ZERO
04ET ABOVE RIGHTWARDS ARROW
13SUBSET
15PERSET
07OF
09 ABOVE ALMOST EQUAL TO
16EQUALS SIGN
16NOT EQUAL TO
16TILDE OPERATOR
10OR EQUAL TO
21 WITH DOT ABOVE
10WITH NOT EQUAL TO
07WITH DOT
12MULTIPLICATION SIGN BELOW
12PLUS SIGN BELOW
04TITUTE
02CCEEDS
08 ABOVE ALMOST EQUAL TO
15EQUALS SIGN
15NOT ALMOST EQUAL TO
19EQUAL TO
15SINGLE-LINE EQUALS SIGN
27NOT EQUAL TO
09BUT NOT EQUIVALENT TO
09OR EQUAL TO
15IVALENT TO
09UNDER RELATION
02MMATION BOTTOM
10TOP
10WITH INTEGRAL
02N
03 BEHIND CLOUD
04WITH FACE
03DANESE AVAGRAHA
10CONSONANT SIGN PAMINGKAL
27NYAKRA
29IKU
27SANGAN MA
34WA
10DIGIT EIGHT
16FIVE
17OUR
16NINE
16ONE
16SEVEN
17IX
16THREE
17WO
16ZERO
10LETTER A
18E
17BA
18HA
17CA
17DA
17E
18U
17FA
18INAL K
23M
17GA
17HA
17I
17JA
17KA
18HA
17LA
18EU
17MA
17NA
18GA
18YA
17O
17PA
17QA
17RA
18EU
17SA
18YA
17TA
17U
17VA
17WA
17XA
17YA
17ZA
10PUNCTUATION BINDU BA SATANGA
28CAKRA
28DA SATANGA
28KA SATANGA
28LEU SATANGA
28PANGLONG
29URNAMA
28SURYA
10SIGN PAMAAEH
17NGLAYAR
19WISAD
18YECEK
15VIRAMA
10VOWEL SIGN PAMEPET
23NAELAENG
24EULEUNG
24GHULU
24OLONG
24YUKU
03FLOWER
03RISE
07 OVER MOUNTAINS
03SET OVER BUILDINGS
02PERHERO
05SCRIPT EIGHT
13QUALS SIGN
12FIVE
13OUR
12LATIN SMALL LETTER I
31N
13EFT PARENTHESIS
12MINUS
12NINE
12ONE
12PLUS SIGN
12RIGHT PARENTHESIS
12SEVEN
13IX
12THREE
13WO
12ZERO
06ET ABOVE LEFTWARDS ARROW
15SUBSET
17PERSET
09BESIDE AND JOINED BY DASH WITH SUBSET
16SUBSET
09OF
11 ABOVE ALMOST EQUAL TO
18EQUALS SIGN
18NOT EQUAL TO
18TILDE OPERATOR
12OR EQUAL TO
23 WITH DOT ABOVE
12WITH NOT EQUAL TO
09PRECEDING SOLIDUS
09WITH DOT
14MULTIPLICATION SIGN BELOW
14PLUS SIGN BELOW
05VILLAIN
02RFACE INTEGRAL
04ER
02SHI
03PENSION RAILWAY
01WAN
03SH AMPERSAND ORNAMENT
02IMMER
02UNG DASH
01YLOTI NAGRI LETTER A
20BHO
21O
20CHO
21O
20DDHO
22O
21HO
21O
20E
20GHO
21O
20HO
20I
20JHO
21O
20KHO
21O
20LO
20MO
20NO
20O
20PHO
21O
20RO
21RO
20SO
20THO
21O
21THO
22O
20U
13POETRY MARK-1
252
253
254
13SIGN ALTERNATE HASANTA
19NUSVARA
18DVISVARA
18HASANTA
13VOWEL SIGN A
24E
24I
24OO
24U
02MBOL FOR ACKNOWLEDGE
11BACKSPACE
12ELL
11CANCEL
13RRIAGE RETURN
11DATA LINK ESCAPE
12ELETE
17 FORM TWO
13VICE CONTROL FOUR
26ONE
26THREE
27WO
11END OF MEDIUM
18TEXT
19RANSMISSION
30 BLOCK
13QUIRY
12SCAPE
11FILE SEPARATOR
12ORM FEED
11GROUP SEPARATOR
11HORIZONTAL TABULATION
11LINE FEED
11MARKS CHAPTER
11NEGATIVE ACKNOWLEDGE
13WLINE
12ULL
11RECORD SEPARATOR
11SAMARITAN SOURCE
12HIFT IN
17OUT
12PACE
12TART OF HEADING
20TEXT
12UBSTITUTE
21 FORM TWO
12YNCHRONOUS IDLE
11TYPE A ELECTRONICS
11UNIT SEPARATOR
11VERTICAL TABULATION
03METRY
02N
03AGOGUE
03CHRONOUS IDLE
02RIAC ABBREVIATION MARK
07BARREKH
07COLON SKEWED LEFT
20RIGHT
09NTRACTION
07DOTTED ZLAMA ANGULAR
20HORIZONTAL
07END OF PARAGRAPH
08SASA ABOVE
13BELOW
07FEMININE DOT
07HARKLEAN ASTERISCUS
16METOBELUS
16OBELUS
08BASA ABOVE
13BELOW
12-ESASA DOTTED
08ORIZONTAL COLON
07LETTER ALAPH
14BETH
14DALATH
15OTLESS DALATH RISH
14E
14FINAL SEMKATH
14GAMAL
19 GARSHUNI
14HE
16TH
14KAPH
14LAMADH
14MALAYALAM BHA
24JA
24LLA
26LA
24NGA
25NA
26NA
25YA
24RA
24SSA
24TTA
15IM
14NUN
14PE
16RSIAN BHETH
22DHALATH
22GHAMAL
14QAPH
14REVERSED PE
15ISH
14SADHE
15EMKATH
15HIN
15OGDIAN FE
22KHAPH
22ZHAIN
15UPERSCRIPT ALAPH
14TAW
15ETH
18 GARSHUNI
14WAW
14YUDH
18 HE
14ZAIN
07MUSIC
07OBLIQUE LINE ABOVE
20BELOW
07PTHAHA ABOVE
14BELOW
14DOTTED
07QUSHSHAYA
07RBASA ABOVE
13BELOW
08UKKAKHA
08WAHA
07SUBLINEAR COLON
22 SKEWED LEFT
30RIGHT
17FULL STOP
09PRALINEAR COLON
24 SKEWED LEFT
19FULL STOP
07THREE DOTS ABOVE
18BELOW
08WO VERTICAL DOTS ABOVE
25BELOW
07ZQAPHA ABOVE
14BELOW
14DOTTED
04NGE
00T-REX
02SHIRT
01AB
03LE TENNIS PADDLE AND BALL
02CO
02G AMPERSAND
05POSTROPHE
05STERISK
04CIRCUMFLEX ACCENT
05OLON
06MMA
08ERCIAL AT
04DIGIT EIGHT
10FIVE
11OUR
10NINE
10ONE
10SEVEN
11IX
10THREE
11WO
10ZERO
05OLLAR SIGN
04EQUALS SIGN
05XCLAMATION MARK
04FULL STOP
04GRAVE ACCENT
06EATER-THAN SIGN
04HYPHEN-MINUS
04LATIN CAPITAL LETTER A
25B
25C
25D
25E
25F
25G
25H
25I
25J
25K
25L
25M
25N
25O
25P
25Q
25R
25S
25T
25U
25V
25W
25X
25Y
25Z
10SMALL LETTER A
23B
23C
23D
23E
23F
23G
23H
23I
23J
23K
23L
23M
23N
23O
23P
23Q
23R
23S
23T
23U
23V
23W
23X
23Y
23Z
05EFT CURLY BRACKET
09PARENTHESIS
09SQUARE BRACKET
06SS-THAN SIGN
05OW LINE
04NUMBER SIGN
04PERCENT SIGN
05LUS SIGN
04QUESTION MARK
06OTATION MARK
04REVERSE SOLIDUS
05IGHT CURLY BRACKET
10PARENTHESIS
10SQUARE BRACKET
04SEMICOLON
05OLIDUS
05PACE
04TILDE
04VERTICAL LINE
03ALOG LETTER A
16RCHAIC RA
15BA
15DA
15GA
15HA
15I
15KA
15LA
15MA
15NA
16GA
15PA
15RA
15SA
15TA
15U
15WA
15YA
08SIGN PAMUDPOD
13VIRAMA
08VOWEL SIGN I
19U
03BANWA LETTER A
16BA
16DA
16GA
16I
16KA
16LA
16MA
16NA
17GA
16PA
16SA
16TA
16U
16WA
16YA
09VOWEL SIGN I
20U
02I LE LETTER A
15I
15UE
14E
15E
15H
14FA
14HA
14I
14KA
15HA
14LA
14MA
14NA
15GA
14O
15O
14PA
15HA
14QA
14SA
14TA
15HA
15ONE-2
193
194
195
196
15SA
16HA
14U
15E
14VA
14XA
14YA
04THAM COMBINING CRYPTOGRAMMIC DOT
11NSONANT SIGN BA
24FINAL NGA
24HIGH RATHA OR LOW PA
24LA TANG LAI
25OW PA
24MA
25EDIAL LA
31RA
24SA
09HORA DIGIT EIGHT
20FIVE
21OUR
20NINE
20ONE
20SEVEN
21IX
20THREE
21WO
20ZERO
09LETTER A
16BA
16DA
16EE
16GREAT SA
16HIGH CA
22HA
21FA
21HA
21KA
22HA
22XA
21PA
22HA
21RATHA
21SA
22HA
22SA
21TA
22HA
21YA
16I
17I
16LA
18E
17LA
17OW CA
21HA
20FA
20HA
20KA
21HA
21XA
20PA
21HA
20RATHA
20SA
20TA
21HA
20YA
17UE
16MA
16NA
17GA
17YA
16OO
16RA
18NA
18TA
17UE
16U
17U
16WA
09SIGN CAANG
14DOKMAI
14HANG
15OY
14KAAN
18KUU
15EOW
15HUEN TONE-3
254
255
19-LUE KARAN
14MAI KANG
22 LAI
18SAM
18YAMOK
14RA HAAM
15EVERSED ROTATED RANA
14SAKOT
16TKAAN
21KUU
16WAN
14TONE-1
192
14WIANG
19WAAK
09THAM DIGIT EIGHT
20FIVE
21OUR
20NINE
20ONE
20SEVEN
21IX
20THREE
21WO
20ZERO
09VOWEL SIGN A
21A
21E
21I
20E
20I
21I
20MAI SAT
20O
21A ABOVE
23BELOW
21O
21Y
20TALL AA
21HAM AI
20U
21E
21U
22E
04VIET LETTER HIGH BO
21CHO
22O
21DO
21FO
21GO
21HO
21KHHO
23O
22O
21LO
21MO
21NGO
22O
22YO
21O
21PHO
22O
21RO
21SO
21THO
22O
21VO
21YO
16LOW BO
20CHO
21O
20DO
20FO
20GO
20HO
20KHHO
22O
21O
20LO
20MO
20NGO
21O
21YO
20O
20PHO
21O
20RO
20SO
20THO
21O
20VO
20YO
09MAI KANG
14HIT
09SYMBOL HO HOI
16KOI KOI
18N
16NUENG
16SAM
09TONE MAI EK
18NUENG
18SONG
18THO
09VOWEL AA
16M
16N
16UE
16Y
15E
15I
16A
15O
15U
16A
16E
17A
02KEOUT BOX
03RI ABBREVIATION SIGN
06DIGIT EIGHT
12FIVE
13OUR
12NINE
12ONE
12SEVEN
13IX
12THREE
13WO
12ZERO
06LETTER A
14A
14I
14RCHAIC KHA
14U
13BA
14HA
13CA
14HA
13DA
14DA
15HA
14HA
13E
13GA
14HA
13HA
13I
14I
13JA
14HA
13KA
14HA
13LA
13MA
13NA
14GA
14NA
14YA
13O
13PA
14HA
13RA
14RA
13SA
14HA
13TA
14HA
14TA
15HA
13U
14U
13VA
13YA
06SIGN ANUSVARA
11NUKTA
11VIRAMA
13SARGA
06VOWEL SIGN AA
18I
18U
17E
17I
18I
17O
17U
18U
02LLY MARK FIVE
11ONE
02MALE
03IL AND ODD SIGN
07S ABOVE SIGN
07U LENGTH MARK
06CREDIT SIGN
07URRENT SIGN
06DAY SIGN
07EBIT SIGN
07IGIT EIGHT
12FIVE
13OUR
12NINE
12ONE
12SEVEN
13IX
12THREE
13WO
12ZERO
07RY CULTIVATION SIGN
06FRACTION DOWNSCALING FACTOR KIIZH
15ONE EIGHTH
24IETH
19FIFTH
20ORTIETH
19HALF-1
242
19ONE-HUNDRED-AND-SIXTIETH
19QUARTER
19SIXTEENTH-1
292
23Y-FOURTH
19TENTH
20HIRTY-SECOND
21REE-HUNDRED-AND-TWENTIETH
20WENTIETH
15THREE EIGHTIETHS
21QUARTERS
21SIXTEENTHS
25Y-FOURTHS
21TWENTIETHS
06IN POSSESSION SIGN
06LAND SIGN
07ETTER A
14A
14I
14U
13CA
13E
14E
13HA
13I
14I
13JA
13KA
13LA
14LA
15LA
13MA
13NA
14GA
14NA
15NA
14YA
13O
14O
13PA
13RA
14RA
13SA
14HA
14SA
13TA
14TA
13U
14U
13VA
13YA
06MONTH SIGN
06NUMBER ONE HUNDRED
17THOUSAND
13SIGN
13TEN
06OM
06PUNCTUATION END OF TEXT
06RUPEE SIGN
06SALT PAN SIGN
07IGN AAZHAAKKU
12NUSVARA
11CEVITU
11KAACU
12URUNI
13ZHI
11MUKKURUNI
13THALIYA
13UVUZHAKKU
11NEL
11PAARAM
13NAM
13THAKKU
12ON
11UZHAKKU
11VAKAIYARAA
13RAAKAN
12ELI
12IRAMA
13SARGA
07PENT SIGN
07TARTING FROM SIGN
06TOTAL SIGN
07RADITIONAL CREDIT SIGN
18NUMBER SIGN
06VOWEL SIGN AA
18I
18U
17E
18E
17I
18I
17O
18O
17U
18U
06WET CULTIVATION SIGN
06YEAR SIGN
02NABATA TREE
03GERINE
04SA DIGIT EIGHT
13FIVE
14OUR
13NINE
13ONE
13SEVEN
14IX
13THREE
14WO
13ZERO
07LETTER AC
15Q
15WC
16Q
16X
16Z
15X
15Z
14BA
14CA
15HA
14DA
15HA
14EC
15Q
15X
15Z
14FA
15INAL NG
14GA
15HA
14HA
15TA
16TA
14IC
15Q
15X
15Z
14KA
15HA
14LA
15ONG UEX
14MA
15C
15Q
15X
15Z
14NA
15GA
15HA
15YA
14OC
15Q
15X
15Z
14PA
15HA
14RA
14SA
15HA
16ORT AWX
20UEZ
14TA
15HA
15SA
14UC
15EC
16Q
16X
16Z
15IC
16Q
16UC
17Q
17X
17Z
16X
16Z
15Q
15X
15Z
14VC
15Q
15X
15Z
14WA
14XA
14YA
14ZA
04UT COMPONENT-001
192
193
194
195
196
197
198
199
1810
191
192
193
194
195
196
197
198
199
1820
191
192
193
194
195
196
197
198
199
1830
191
192
193
194
195
196
197
198
199
1840
191
192
193
194
195
196
197
198
199
1850
191
192
193
194
195
196
197
198
199
1860
191
192
193
194
195
196
197
198
199
1870
191
192
193
194
195
196
197
198
199
1880
191
192
193
194
195
196
197
198
199
1890
191
192
193
194
195
196
197
198
199
17100
191
192
193
194
195
196
197
198
199
1810
191
192
193
194
195
196
197
198
199
1820
191
192
193
194
195
196
197
198
199
1830
191
192
193
194
195
196
197
198
199
1840
191
192
193
194
195
196
197
198
199
1850
191
192
193
194
195
196
197
198
199
1860
191
192
193
194
195
196
197
198
199
1870
191
192
193
194
195
196
197
198
199
1880
191
192
193
194
195
196
197
198
199
1890
191
192
193
194
195
196
197
198
199
17200
191
192
193
194
195
196
197
198
199
1810
191
192
193
194
195
196
197
198
199
1820
191
192
193
194
195
196
197
198
199
1830
191
192
193
194
195
196
197
198
199
1840
191
192
193
194
195
196
197
198
199
1850
191
192
193
194
195
196
197
198
199
1860
191
192
193
194
195
196
197
198
199
1870
191
192
193
194
195
196
197
198
199
1880
191
192
193
194
195
196
197
198
199
1890
191
192
193
194
195
196
197
198
199
17300
191
192
193
194
195
196
197
198
199
1810
191
192
193
194
195
196
197
198
199
1820
191
192
193
194
195
196
197
198
199
1830
191
192
193
194
195
196
197
198
199
1840
191
192
193
194
195
196
197
198
199
1850
191
192
193
194
195
196
197
198
199
1860
191
192
193
194
195
196
197
198
199
1870
191
192
193
194
195
196
197
198
199
1880
191
192
193
194
195
196
197
198
199
1890
191
192
193
194
195
196
197
198
199
17400
191
192
193
194
195
196
197
198
199
1810
191
192
193
194
195
196
197
198
199
1820
191
192
193
194
195
196
197
198
199
1830
191
192
193
194
195
196
197
198
199
1840
191
192
193
194
195
196
197
198
199
1850
191
192
193
194
195
196
197
198
199
1860
191
192
193
194
195
196
197
198
199
1870
191
192
193
194
195
196
197
198
199
1880
191
192
193
194
195
196
197
198
199
1890
191
192
193
194
195
196
197
198
199
17500
191
192
193
194
195
196
197
198
199
1810
191
192
193
194
195
196
197
198
199
1820
191
192
193
194
195
196
197
198
199
1830
191
192
193
194
195
196
197
198
199
1840
191
192
193
194
195
196
197
198
199
1850
191
192
193
194
195
196
197
198
199
1860
191
192
193
194
195
196
197
198
199
1870
191
192
193
194
195
196
197
198
199
1880
191
192
193
194
195
196
197
198
199
1890
191
192
193
194
195
196
197
198
199
17600
191
192
193
194
195
196
197
198
199
1810
191
192
193
194
195
196
197
198
199
1820
191
192
193
194
195
196
197
198
199
1830
191
192
193
194
195
196
197
198
199
1840
191
192
193
194
195
196
197
198
199
1850
191
192
193
194
195
196
197
198
199
1860
191
192
193
194
195
196
197
198
199
1870
191
192
193
194
195
196
197
198
199
1880
191
192
193
194
195
196
197
198
199
1890
191
192
193
194
195
196
197
198
199
17700
191
192
193
194
195
196
197
198
199
1810
191
192
193
194
195
196
197
198
199
1820
191
192
193
194
195
196
197
198
199
1830
191
192
193
194
195
196
197
198
199
1840
191
192
193
194
195
196
197
198
199
1850
191
192
193
194
195
196
197
198
199
1860
191
192
193
194
195
196
197
198
07ITERATION MARK
02PE CARTRIDGE
05DRIVE
02URUS
02XI
01EACUP WITHOUT HANDLE
03POT
03R-OFF CALENDAR
04DROP-BARBED RIGHTWARDS ARROW
09SPOKED ASTERISK
02DDY BEAR
02LEPHONE LOCATION SIGN
10ON TOP OF MODEM
10RECEIVER
18 WITH PAGE
13ORDER
10SIGN
04SCOPE
04VISION
03UGU AI LENGTH MARK
07DIGIT EIGHT
13FIVE
14OUR
13NINE
13ONE
13SEVEN
14IX
13THREE
14WO
13ZERO
07FRACTION DIGIT ONE FOR EVEN POWERS OF FOUR
30ODD POWERS OF FOUR
22THREE FOR EVEN POWERS OF FOUR
32ODD POWERS OF FOUR
23WO FOR EVEN POWERS OF FOUR
30ODD POWERS OF FOUR
22ZERO FOR ODD POWERS OF FOUR
07LENGTH MARK
09TTER A
15A
15I
15U
14BA
15HA
14CA
15HA
14DA
15DA
16HA
15HA
15ZA
14E
15E
14GA
15HA
14HA
14I
15I
14JA
15HA
14KA
15HA
14LA
15LA
16LA
14MA
14NA
16KAARA POLLU
15GA
15NA
15YA
14O
15O
14PA
15HA
14RA
15RA
16RA
14SA
15HA
15SA
14TA
15HA
15SA
15TA
16HA
14U
15U
14VA
15OCALIC L
23L
22R
23R
14YA
07SIGN ANUSVARA
13VAGRAHA
12CANDRABINDU
13OMBINING ANUSVARA ABOVE
22CANDRABINDU ABOVE
12NUKTA
12SIDDHAM
12TUUMU
12VIRAMA
14SARGA
07VOWEL SIGN AA
19I
19U
18E
19E
18I
19I
18O
19O
18U
19U
18VOCALIC L
27L
26R
27R
02NGE SIGN
03NIS RACQUET AND BALL
03T
02ST TUBE
02TRAGRAM FOR ACCUMULATION
15DVANCE
15GGRAVATION
15SCENT
14BARRIER
15OLD RESOLUTION
15RANCHING OUT
14CENTRE
15HANGE
15LOSED MOUTH
19NESS
18URE
15OMPLETION
19IANCE
16NSTANCY
17TACT
18ENTION
18RARIETY
14DARKENING
15ECISIVENESS
16FECTIVENESS OR DISTORTION
16PARTURE
15IFFICULTIES
16MINISHMENT
17MING
16VERGENCE
15OUBT
15UTIES
14EASE
15MBELLISHMENT
15NCOUNTERS
16DEAVOUR
16LARGEMENT
15TERNITY
15XHAUSTION
14FAILURE
15LIGHT
15OLLOWING
16STERING
15ULL CIRCLE
18NESS
14GATHERING
23 IN
15OING TO MEET
15REATNESS
15UARDEDNESS
14HARDNESS
15OLDING BACK
14INCREASE
16NER
14JOY
14KEEPING SMALL
15INSHIP
14LABOURING
16W OR MODEL
15EGION
14MASSING
15EASURE
15IRED
14ON THE VERGE
15PPOSITION
14PACKING
16TTERN
15ENETRATION
15URITY
14REACH
16LEASE
16SIDENCE
18STANCE
17PONSE
15ITUAL
14SEVERANCE
15INKING
15TOPPAGE
17VE
16RENGTH
14UNITY
14VASTNESS OR WASTING
14WAITING
16TCH
14YOUTHFULNESS
01HAANA AABAAFILI
08BAFILI
07EBEFILI
08EBEEFILI
08YBEYFILI
07IBIFILI
07LETTER AINU
15LIFU
14BAA
14CHAVIYANI
14DAADHU
16VIYANI
15HAALU
14FAAFU
14GAAFU
15HAINU
15NAVIYANI
14HAA
15HAA
14JAVIYANI
14KAAFU
15HAA
14LAAMU
15HAVIYANI
14MEEMU
14NAA
15OONU
14PAVIYANI
14QAAFU
14RAA
14SAADHU
15EENU
15HAVIYANI
16EENU
14TAVIYANI
15HAA
18LU
15O
15TAA
14VAAVU
14WAAVU
14YAA
14ZAA
16VIYANI
15O
07OABOAFILI
08BOFILI
08OBOOFILI
07SUKUN
07UBUFILI
03I CHARACTER ANGKHANKHU
15BO BAIMAI
15CHO CHAN
23G
21ING
21OE
15DO CHADA
18DEK
15FO FA
20N
17NGMAN
15HO HIP
18NOKHUK
15KHO KHAI
21ON
21UAT
21WAI
19RAKHANG
18MUT
16O KAI
15LAKKHANGYAO
16O CHULA
18LING
16U
15MAI CHATTAWA
19EK
19HAN-AKAT
19THO
20RI
18TAIKHU
18YAMOK
16O MA
15NGO NGU
16IKHAHIT
16O NEN
19U
15O ANG
15PAIYANNOI
16HINTHU
17O PHAN
21UNG
19SAMPHAO
16O PLA
15RO RUA
16U
15SARA A
21A
21E
21I MAIMALAI
27UAN
21M
20E
20I
21I
20O
20U
21E
22E
21U
16O RUSI
18SALA
19O
19UA
15THANTHAKHAT
17O NANGMONTHO
19PHUTHAO
19THAHAN
22N
21ONG
21UNG
16O PATAK
18TAO
15WO WAEN
15YAMAKKAN
16O YAK
19ING
06URRENCY SYMBOL BAHT
05DIGIT EIGHT
11FIVE
12OUR
11NINE
11ONE
11SEVEN
12IX
11THREE
12WO
11ZERO
02ERE DOES NOT EXIST
06EXISTS
05FORE
04MODYNAMIC
06METER
02IN GREEK CROSS
05SALTIRE
06PACE
04KING FACE
03RD PLACE MEDAL
02ONG SANDAL
03UGHT BALLOON
02REE BUTTON MOUSE
06CONSECUTIVE EQUALS SIGNS
06DIMENSIONAL ANGLE
07OT PUNCTUATION
06LEFTWARDS ARROWS
07INES CONVERGING LEFT
23RIGHT
06NETWORKED COMPUTERS
06POINTED BLACK STAR
06RAYS ABOVE
11BELOW
11LEFT
11RIGHT
07IGHTWARDS ARROWS
06SPEECH BUBBLES
05-D BOTTOM-LIGHTED RIGHTWARDS ARROWHEAD
08LEFT-LIGHTED DOWNWARDS EQUILATERAL ARROWHEAD
08RIGHT-LIGHTED UPWARDS EQUILATERAL ARROWHEAD
08TOP-LIGHTED LEFTWARDS EQUILATERAL ARROWHEAD
20RIGHTWARDS ARROWHEAD
31EQUILATERAL ARROWHEAD
06EM DASH
06PER-EM SPACE
02UMBS DOWN SIGN
07UP SIGN
03NDER CLOUD AND RAIN
07STORM
01IBETAN ASTROLOGICAL SIGN -KHYUD PA
26SDONG TSHUGS
27GRA GCAN -CHAR RTAGS
08CANTILLATION SIGN CANG TE-U
26HEAVY BEAT
26LIGHT BEAT
26SBUB -CHAL
08DIGIT EIGHT
14FIVE
15OUR
14HALF EIGHT
19FIVE
20OUR
19NINE
19ONE
19SEVEN
20IX
19THREE
20WO
19ZERO
14NINE
14ONE
14SEVEN
15IX
14THREE
15WO
14ZERO
08KU RU KHA
17 BZHI MIG CAN
08LETTER -A
15A
15BA
16HA
15CA
16HA
15DA
16DA
17HA
16HA
16ZA
17HA
15FIXED-FORM RA
15GA
16HA
15HA
15JA
15KA
16HA
16KA
16SSA
15LA
15MA
15NA
16GA
16NA
16YA
15PA
16HA
15RA
16RA
15SA
16HA
16SA
15TA
16HA
16SA
17HA
16TA
17HA
15WA
15YA
15ZA
16HA
09OGOTYPE SIGN CHAD RTAGS
22LHAG RTAGS
08MARK ANG KHANG GYAS
25ON
13BKA- SHOG GI MGO RGYAN
23YIG MGO
14SDUS RTAGS
15KA- SHOG GI MGO RGYAN
16UR YIG MGO
13CARET -DZUD RTAGS BZHI MIG CAN
31ME LONG CAN
19YIG MGO PHUR SHAD MA
14HE MGO
14LOSING BRDA RNYING YIG MGO SGAB MA
21YIG MGO SGAB MA
13DELIMITER TSHEG BSTAR
13GTER TSHEG
18YIG MGO -UM GTER TSHEG MA
30RNAM BCAD MA
26TRUNCATED A
14UG RTAGS GYAS
25ON
13HALANTA
13INITIAL BRDA RNYING YIG MGO MDUN MA
21YIG MGO MDUN MA
15TERSYLLABIC TSHEG
13LEADING MCHAN RTAGS
13MNYAM YIG GI MGO RGYAN
13NGAS BZUNG NYI ZLA
24SGOR RTAGS
14YIS SHAD
18TSHEG
23 SHAD
13PALUTA
13RGYA GRAM SHAD
14IN CHEN SPUNGS SHAD
13SBRUL SHAD
14HAD
13TRAILING MCHAN RTAGS
14SA -PHRU
15HEG SHAD
13YIG MGO TSHEG SHAD MA
08SIGN GRU CAN RGYINGS
17MED RGYINGS
13INVERTED MCHU CAN
13LCE TSA CAN
15I RTAGS
13MAR TSHES
14CHU CAN
13NYI ZLA NAA DA
13RDEL DKAR GCIG
24NYIS
24SUM
23RDEL NAG
18NAG GCIG
23NYIS
23SUM
22RDEL DKAR
14JES SU NGA RO
14NAM BCAD
13SNA LDAN
13YANG RTAGS
15R TSHES
09UBJOINED LETTER -A
25A
25BA
26HA
25CA
26HA
25DA
26DA
27HA
26HA
26ZA
27HA
25FIXED-FORM RA
36WA
36YA
25GA
26HA
25HA
25JA
25KA
26HA
26SSA
25LA
25MA
25NA
26GA
26NA
26YA
25PA
26HA
25RA
25SA
26HA
26SA
25TA
26HA
26SA
27HA
26TA
27HA
25WA
25YA
25ZA
26HA
18SIGN INVERTED MCHU CAN
23LCE TSA CAN
23MCHU CAN
09YLLABLE OM
10MBOL DRIL BU
15NOR BU
21 BZHI -KHYIL
22GSUM -KHYIL
22NYIS -KHYIL
15PADMA GDAN
16HUR PA
15RDO RJE
22 RGYA GRAM
08VOWEL SIGN AA
19E
20E
19I
20I
19O
20O
19REVERSED I
29I
19U
20U
19VOCALIC L
28L
27R
28R
02CKET
02E OVER INFINITY
02FINAGH CONSONANT JOINER
09LETTER AHAGGAR YAZH
17YER YAGH
16BERBER ACADEMY YAH
33J
16TAWELLEMET YAZ
17UAREG YAGH
26N
25H
25K
26H
25NG
25Q
25ZH
16YA
18A
18B
19H
18CH
18D
19D
20H
19H
18F
18G
19H
20H
18H
19H
18J
18K
19H
20H
18L
18M
18N
18P
18Q
18R
19R
18S
19H
19S
18T
19H
19T
18V
18W
18Y
18Z
19H
19Z
17E
18Y
17I
17O
17U
09MODIFIER LETTER LABIALIZATION MARK
09SEPARATOR MARK
02GER
05 FACE
03HT TRIFOLIATE SNOWFLAKE
02LDE
05 OPERATOR
14 ABOVE LEFTWARDS ARROW
21RIGHTWARDS ARROW
15WITH DOT ABOVE
20RISING DOTS
06WITH DOT ABOVE
15BELOW
11RING ABOVE
02MER CLOCK
04S WITH LEFT HALF BLACK
11RIGHT HALF BLACK
02NY
04 TWO DOTS OVER ONE DOT PUNCTUATION
02RED FACE
03HUTA ABBREVIATION SIGN
09NJI
08DIGIT EIGHT
14FIVE
15OUR
14NINE
14ONE
14SEVEN
15IX
14THREE
15WO
14ZERO
08GVANG
08LETTER A
16A
16I
16U
15BA
16HA
15CA
16HA
15DA
16DA
17HA
16HA
15E
15GA
16HA
15HA
15I
16I
15JA
16HA
15KA
16HA
15LA
15MA
15NA
16GA
16NA
16YA
15O
15PA
16HA
15RA
15SA
16HA
16SA
15TA
16HA
16TA
17HA
15U
16U
15VA
16OCALIC L
24L
23R
24R
15YA
08OM
08SIGN ANUSVARA
14VAGRAHA
13CANDRABINDU
13NUKTA
13VIRAMA
15SARGA
08VOWEL SIGN AA
20I
20U
19E
19I
20I
19O
19SHORT E
25O
19U
20U
19VOCALIC L
28L
27R
28R
03ONIAN SIGN CAPITAL ET
14ET
01OILET
02KYO TOWER
02MATO
02NGUE
02OLBOX
03TH
05BRUSH
02P ARC ANTICLOCKWISE ARROW
27 WITH PLUS
08CLOCKWISE ARROW WITH MINUS
04CURLY BRACKET
04HALF BLACK CIRCLE
09INTEGRAL
09LEFT PARENTHESIS
09RIGHT PARENTHESIS
09SECTION SIGN
06T
04LEFT CORNER
10ROP
09HALF BRACKET
04PARENTHESIS
04RIGHT CORNER
11ROP
10HALF BRACKET
04SQUARE BRACKET
04TORTOISE SHELL BRACKET
04WITH UPWARDS ARROW ABOVE
02RTOISE SHELL BRACKETED CJK UNIFIED IDEOGRAPH-4E09
498C
4752DD
48B89
476253
48557
4872C
4770B9
486D7
25LATIN CAPITAL LETTER S
02TAL RUNOUT
03O LETTER A
13E
12BA
13REATHY AE
20E
21O
20I
21U
12CHA
12DA
12E
13O
12GA
12HA
12I
13U
12JA
12KA
12LA
12MA
12NA
13GA
12O
12PA
12RA
12SA
12TA
12U
12WA
12YA
05SIGN RISING TONE
01RACKBALL
04TOR
03DE MARK SIGN
03IN
03M
04 CAR
03NSPLUTO
05VERSAL INTERSECTION
02IANGLE WITH DOT ABOVE
14ROUNDED CORNERS
14SERIFS AT BOTTOM
14UNDERBAR
08-HEADED RIGHTWARDS ARROW
06ULAR BULLET
11FLAG ON POST
11RULER
03COLON
03DENT EMBLEM
03GRAM FOR EARTH
12FIRE
12HEAVEN
12LAKE
12MOUNTAIN
12THUNDER
12WATER
13IND
03PLE COLON OPERATOR
07DAGGER
07HORIZONTAL BAR WITH DOUBLE VERTICAL STROKE
27TRIPLE VERTICAL STROKE
07INTEGRAL
07NESTED GREATER-THAN
14LESS-THAN
07PLUS
08RIME
07SOLIDUS BINARY RELATION
07TILDE
07VERTICAL BAR BINARY RELATION
20DELIMITER
20RIGHT TURNSTILE
20WITH HORIZONTAL STROKE
02OLL
05EYBUS
03PHY
04ICAL DRINK
09FISH
02UE
04 LIGHT MOON ARTA
03MPET
01UGRIK SIGN
02LIP
02MBLER GLASS
02RKEY
04ISH LIRA SIGN
03NED AMPERSAND
08NGLE
07BLACK PENTAGON
13SHOGI PIECE
07CAPITAL F
08OMMA
07DAGGER
08IGIT THREE
14WO
07GREEK SMALL LETTER IOTA
07NORTH EAST POINTING LEAF
13WEST POINTING LEAF
09T SIGN
07OK HAND SIGN
07SANS-SERIF CAPITAL G
26L
26Y
08EMICOLON
08MALL F
08OUTH EAST POINTING LEAF
13WEST POINTING LEAF
07WHITE SHOGI PIECE
03TLE
01WELVE POINTED BLACK STAR
02ISTED RIGHTWARDS ARROWS
02O ASTERISKS ALIGNED VERTICALLY
04BUTTON MOUSE
04CONSECUTIVE EQUALS SIGNS
04DOT LEADER
08PUNCTUATION
07S OVER ONE DOT PUNCTUATION
04HEARTS
04INTERSECTING LOGICAL AND
25OR
04JOINED SQUARES
04LOGICAL AND OPERATOR
12OR OPERATOR
04MEN HOLDING HANDS
04SPEECH BUBBLES
04WOMEN HOLDING HANDS
03-EM DASH
00UGARITIC LETTER AIN
17LPA
16BETA
16DELTA
17HAL
16GAMLA
17HAIN
16HO
18TA
16I
16KAF
17HA
16LAMDA
16MEM
16NUN
16PU
16QOPA
16RASHA
16SADE
18MKA
17HIN
17SU
16TET
17HANNA
17O
16U
16WO
16YOD
16ZETA
17U
09WORD DIVIDER
01MBRELLA
08 ON GROUND
09WITH RAIN DROPS
01NAMUSED FACE
02CERTAINTY SIGN
02DERTIE
03O SYMBOL
02ICORN FACE
03ON
05 ABOVE BAR ABOVE INTERSECTION
12INTERSECTION
06BESIDE AND JOINED WITH UNION
06WITH LOGICAL OR
11MINUS SIGN
11OVERBAR
03T SEPARATOR
04ED SYMBOL
03VERSAL RECYCLING SYMBOL
02MARRIED PARTNERSHIP SYMBOL
01P ARROW THROUGH CIRCLE
08HEAD
12 BETWEEN TWO HORIZONTAL BARS
13IN A RECTANGLE BOX
03BARB LEFT DOWN BARB LEFT HARPOON
23RIGHT HARPOON
08RIGHT DOWN BARB LEFT HARPOON
24RIGHT HARPOON
03DOWN ARROW
13 WITH BASE
08BLACK ARROW
08DOUBLE ARROW
08SANS-SERIF ARROW
08TRIANGLE-HEADED ARROW
08WHITE ARROW
03FISH TAIL
03RIGHT DIAGONAL ELLIPSIS
03TACK
07 WITH CIRCLE ABOVE
02-POINTING AIRPLANE
12MILITARY AIRPLANE
12RED TRIANGLE
12SMALL AIRPLANE
18RED TRIANGLE
12TRIANGLE WITH LEFT HALF BLACK
26RIGHT HALF BLACK
02PER AND LEFT AND LOWER TRIANGULAR THREE QUARTERS BLOCK
11OWER ONE EIGHTH BLOCK
16TRIANGULAR HALF BLOCK
10RIGHT AND LOWER TRIANGULAR THREE QUARTERS BLOCK
06BLADE SCISSORS
06FIVE EIGHTHS BLOCK
06HALF BLOCK
16 AND LOWER HALF INVERSE MEDIUM SHADE
11CIRCLE
11INVERSE MEDIUM SHADE AND LOWER HALF BLOCK
19WHITE CIRCLE
11MEDIUM SHADE
06LEFT BLOCK DIAGONAL LOWER CENTRE TO LOWER MIDDLE RIGHT
42UPPER MIDDLE RIGHT
48RIGHT
32LEFT TO LOWER MIDDLE RIGHT
40UPPER CENTRE
46MIDDLE RIGHT
32MIDDLE LEFT TO UPPER CENTRE
53MIDDLE RIGHT
53RIGHT
26UPPER MIDDLE LEFT TO UPPER CENTRE
53RIGHT
11CORNER WITH DOT
11OR LOWER RIGHT CURLY BRACKET SECTION
11QUADRANT CIRCULAR ARC
11TO LOWER RIGHT FILL
12RIANGLE
17ULAR MEDIUM SHADE
06ONE EIGHTH BLOCK
10QUARTER BLOCK
06RIGHT BLOCK DIAGONAL LOWER MIDDLE LEFT TO LOWER CENTRE
54RIGHT
27UPPER CENTRE TO LOWER MIDDLE RIGHT
49RIGHT
43UPPER MIDDLE RIGHT
33LEFT TO LOWER CENTRE
47MIDDLE RIGHT
41UPPER MIDDLE RIGHT
33MIDDLE LEFT TO LOWER CENTRE
54MIDDLE RIGHT
54RIGHT
12DROP-SHADOWED WHITE SQUARE
12OR LOWER LEFT CURLY BRACKET SECTION
12PENCIL
12QUADRANT CIRCULAR ARC
12SHADOWED WHITE CIRCLE
27SQUARE
12TO LOWER LEFT FILL
13RIANGLE
18ULAR MEDIUM SHADE
06SEVEN EIGHTHS BLOCK
06THREE EIGHTHS BLOCK
12QUARTERS BLOCK
07RIANGULAR ONE QUARTER BLOCK
02SIDE-DOWN FACE
02WARDS ANCORA
09RROW
13 AND RIGHT ONE EIGHTH BLOCK
14FROM BAR
14LEFTWARDS OF DOWNWARDS ARROW
14TO BAR
14WITH DOUBLE STROKE
19EQUILATERAL ARROWHEAD
19HORIZONTAL STROKE
19LARGE TRIANGLE ARROWHEAD
19MEDIUM TRIANGLE ARROWHEAD
19NOTCHED TAIL
19SMALL EQUILATERAL ARROWHEAD
25TRIANGLE ARROWHEAD
19TIP LEFTWARDS
23RIGHTWARDS
08BLACK ARROW
14CIRCLED WHITE ARROW
08COMPRESSED ARROW
08DASHED ARROW
09OUBLE ARROW
08FINGER-POST ARROW
08HARPOON WITH BARB LEFT BESIDE DOWNWARDS HARPOON WITH BARB RIGHT
38UPWARDS HARPOON WITH BARB RIGHT
31FROM BAR
31TO BAR
30WARDS
26RIGHT FROM BAR
32TO BAR
31WARDS
09EAVY ARROW
14COMPRESSED ARROW
08PAIRED ARROWS
08QUADRUPLE ARROW
08ROCKET
08SANS-SERIF ARROW
09QUARED ARROW
08TRIANGLE ARROWHEAD
16-HEADED ARROW
29 LEFTWARDS OF DOWNWARDS TRIANGLE-HEADED ARROW
30TO BAR
30WITH BOLD SHAFT
35DOUBLE HORIZONTAL STROKE
35HEAVY SHAFT
35LONG TIP LEFTWARDS
44RIGHTWARDS
35MEDIUM SHAFT
35NARROW SHAFT
35VERY HEAVY SHAFT
24DASHED ARROW
24PAIRED ARROWS
11PLE ARROW
09WO HEADED ARROW
11-HEADED ARROW FROM SMALL CIRCLE
25WITH TRIANGLE ARROWHEADS
08WHITE ARROW
19 FROM BAR
28 WITH HORIZONTAL BAR
20ON PEDESTAL
31 WITH HORIZONTAL BAR
37VERTICAL BAR
20WITHIN TRIANGLE ARROWHEAD
14DOUBLE ARROW
26 ON PEDESTAL
01RANUS
01S
00VAI COMMA
04DIGIT EIGHT
10FIVE
11OUR
10NINE
10ONE
10SEVEN
11IX
10THREE
11WO
10ZERO
04FULL STOP
04QUESTION MARK
04SYLLABLE A
14N
13BA
14E
15E
14HA
15E
16E
15I
15O
16O
15U
14I
14O
15O
14U
13CA
14E
15E
14I
14O
15O
14U
13DA
14E
15E
14HA
15E
16E
15HA
16E
17E
16I
16O
17O
16U
15I
15O
16O
15U
14I
14O
15O
14U
13E
14E
15N
14N
13FA
14E
15E
14I
14O
15O
14U
13GA
14BA
15E
16E
16N
15I
15O
16N
16O
15U
14E
15E
15N
14I
14O
15O
14U
13HA
15N
14E
15E
15N
14I
15N
14O
15N
15O
14U
15N
13I
14N
13JA
14E
15E
14I
14O
15O
14U
13KA
15N
14E
15E
14I
14O
15O
14PA
16N
15E
16E
16N
15I
15O
16O
15U
14U
13LA
14E
15E
15NGTHENER
14I
14O
15O
14U
13MA
14BA
15E
16E
15I
15O
16O
15U
14E
15E
14GBA
16E
17E
16I
16O
17O
16U
14I
14O
15O
14U
13NA
14DA
15E
16E
15I
15O
16LE DO
19FA
19KA
19MA
19SOO
16O
15U
14E
15E
14G
15AN
15EN
15GA
16E
17E
17N
16I
16O
17O
16U
15ON
14I
14JA
15E
16E
15I
15O
16O
15U
14O
15O
14U
14YA
15E
16E
15I
15O
16O
15U
13O
14N
14O
15N
13PA
14E
15E
14I
14O
15O
14U
13RA
14E
15E
14I
14O
15O
14U
13SA
14E
15E
14HA
15E
16E
15I
15O
16O
15U
14I
14O
15O
14U
13TA
14E
15E
14HA
15E
16E
15I
15O
16O
15U
14I
14O
15O
14U
13U
14N
13VA
14E
15E
14I
14O
15O
14U
13WA
15N
14E
15E
16N
15N
14I
15N
14O
15N
15O
16N
14U
15N
13YA
14E
15E
14I
14O
15O
14U
13ZA
14E
15E
14HA
15E
16E
15I
15O
16O
15U
14I
14O
15O
14U
06MBOL BANG
11DANG
12O-O
13ONG
11FAA
12EENG
11JONG
11KEENG
12UNG
11NII
11TAA
12ING
12ONG
02MPIRE
02RIATION SELECTOR-1
200
210
211
212
213
214
215
216
217
218
219
201
210
211
212
213
214
215
216
217
218
219
202
210
211
212
213
214
215
216
217
218
219
203
210
211
212
213
214
215
216
217
218
219
204
210
211
212
213
214
215
216
217
218
219
205
210
211
212
213
214
215
216
217
218
219
206
210
211
212
213
214
215
216
217
218
219
207
210
211
212
213
214
215
216
217
218
219
208
210
211
212
213
214
215
216
217
218
219
209
210
211
212
213
214
215
216
217
218
219
192
200
210
211
212
213
214
215
216
217
218
219
201
210
211
212
213
214
215
216
217
218
219
202
210
211
212
213
214
215
216
217
218
219
203
210
211
212
213
214
215
216
217
218
219
204
210
211
212
213
214
215
216
217
218
219
205
210
211
212
213
214
215
216
206
207
208
209
193
200
201
202
203
204
205
206
207
208
209
194
200
201
202
203
204
205
206
207
208
209
195
200
201
202
203
204
205
206
207
208
209
196
200
201
202
203
204
205
206
207
208
209
197
200
201
202
203
204
205
206
207
208
209
198
200
201
202
203
204
205
206
207
208
209
199
200
201
202
203
204
205
206
207
208
209
01ECTOR OR CROSS PRODUCT
02DIC SIGN ANUSVARA ANTARGOMUKHA
20BAHIRGOMUKHA
20UBHAYATO MUKHA
20VAMAGOMUKHA
31 WITH TAIL
12RDHAVISARGA
12TIKRAMA
11DOUBLE ANUSVARA ANTARGOMUKHA
11HEXIFORM LONG ANUSVARA
11JIHVAMULIYA
11LONG ANUSVARA
11NIHSHVASA
11REVERSED VISARGA ANUDATTA
28UDATTA
12OTATED ARDHAVISARGA
12THANG LONG ANUSVARA
11TIRYAK
11UPADHMANIYA
11VISARGA ANUDATTA
27 WITH TAIL
19SVARITA
19UDATTA
25 WITH TAIL
11YAJURVEDIC MIDLINE SVARITA
06TONE ATHARVAVEDIC INDEPENDENT SVARITA
11CANDRA ABOVE
18BELOW
11DOT BELOW
13UBLE RING ABOVE
18SVARITA
11KARSHANA
13THAKA ANUDATTA
11PRENKHA
11RIGVEDIC KASHMIRI INDEPENDENT SVARITA
13NG ABOVE
11SHARA
11THREE DOTS BELOW
12RIPLE SVARITA
12WO DOTS BELOW
11YAJURVEDIC AGGRAVATED INDEPENDENT SVARITA
22INDEPENDENT SVARITA
22KATHAKA INDEPENDENT SVARITA
49 SCHROEDER
02RSICLE
03TICAL BAR BESIDE RIGHT TRIANGLE
13DOUBLE LEFT TURNSTILE
13TRIPLE RIGHT TURNSTILE
13WITH HORIZONTAL STROKE
09ELLIPSIS
09FOUR DOTS
09IDEOGRAPHIC ITERATION MARK
09KANA REPEAT MARK
25 LOWER HALF
26UPPER HALF
21WITH VOICED SOUND MARK
43 UPPER HALF
09LINE
13 EXTENSION
14WITH CIRCLE ABOVE
26BELOW
19MIDDLE DOT
09MALE WITH STROKE SIGN
09ONE EIGHTH BLOCK-2
263
264
265
266
267
09SIX DOTS
09TAB KEY
12ULATION
19 SET
10ILDE
10RAFFIC LIGHT
09ZIGZAG LINE
03Y BOLD GREEK CROSS
05HEAVY EIGHT POINTED BLACK STAR
17SPOKED ASTERISK
11FIVE SPOKED ASTERISK
11GREEK CROSS
11REVERSE SOLIDUS
11SALTIRE
12IX SPOKED ASTERISK
12OLIDUS
11WHITE CIRCLE
17SQUARE
05MUCH GREATER-THAN
10LESS-THAN
02STA
01IBRATION MODE
02CTORY HAND
02DEO CAMERA
06GAME
05CASSETTE
02ETNAMESE ALTERNATE READING MARK CA
34NHAY
03WDATA SQUARE
02OLIN
02RGO
02THKUQI CAPITAL LETTER A
24BBE
25E
24CE
25HE
24DE
25HE
24E
25I
24FE
24GA
24HA
25HA
24I
25JE
24JE
24KA
24LA
25LA
24ME
24NE
25JE
24O
24PE
24QA
24RE
24SE
25HE
24TE
25HE
24U
24VE
24XE
24Y
24ZE
09SMALL LETTER A
22BBE
23E
22CE
23HE
22DE
23HE
22E
23I
22FE
22GA
22HA
23HA
22I
23JE
22JE
22KA
22LA
23LA
22ME
22NE
23JE
22O
22PE
22QA
22RE
22SE
23HE
22TE
23HE
22U
22VE
22XE
22Y
22ZE
01OIDED GREEK CROSS
02LCANO
03LEYBALL
03UME INTEGRAL
01S1
030
040
041
042
043
044
045
046
047
048
049
031
040
041
042
043
044
045
046
047
048
049
032
040
041
042
043
044
045
046
047
048
049
033
040
041
042
043
044
045
046
047
048
049
034
040
041
042
043
044
045
046
047
048
049
035
040
041
042
043
044
045
046
047
048
049
036
040
041
042
043
044
045
046
047
048
049
037
040
041
042
043
044
045
046
047
048
049
038
040
041
042
043
044
045
046
047
048
049
039
040
041
042
043
044
045
046
047
048
049
022
030
040
041
042
043
044
045
046
047
048
049
031
040
041
042
043
044
045
046
047
048
049
032
040
041
042
043
044
045
046
047
048
049
033
040
041
042
043
044
045
046
047
048
049
034
040
041
042
043
044
045
046
047
048
049
035
040
041
042
043
044
045
046
036
037
038
039
023
030
031
032
033
034
035
036
037
038
039
024
030
031
032
033
034
035
036
037
038
039
025
030
031
032
033
034
035
036
037
038
039
026
030
031
032
033
034
035
036
037
038
039
027
030
031
032
033"

/-- Names from `VS74` on. -/
def namesH : String :=
"00VS74
035
036
037
038
039
028
030
031
032
033
034
035
036
037
038
039
029
030
031
032
033
034
035
036
037
038
039
01T
02S
01ULCANUS
03GAR FRACTION FIVE EIGHTHS
21SIXTHS
17OUR FIFTHS
16ONE EIGHTH
20FIFTH
20HALF
20NINTH
20QUARTER
20SEVENTH
21IXTH
20TENTH
21HIRD
16SEVEN EIGHTHS
16THREE EIGHTHS
22FIFTHS
22QUARTERS
17WO FIFTHS
20THIRDS
16ZERO THIRDS
00WAFFLE
02NCHO DIGIT EIGHT
13FIVE
14OUR
13NINE
13ONE
13SEVEN
14IX
13THREE
14WO
13ZERO
07LETTER A
15A
16N
17G
15NG
15U
14BA
14CA
14DA
14E
15N
14FA
14GA
14HA
14I
15NG
14JA
14KA
15HA
14LA
15LHA
14MA
14NA
15GA
15YA
14O
15N
16G
14PA
15HA
14RA
14SA
15HA
14TA
15HA
15RA
15SA
14U
15EN
14VA
14WA
14YA
15IH
14ZA
07NGUN SIGN
07TONE KOI
15NI
12TUP
15NI
03ING CRESCENT MOON SYMBOL
07GIBBOUS MOON SYMBOL
02RANG CITI CAPITAL LETTER A
28M
28NG
28T
27BU
27DA
27E
28NN
29Y
27GA
27HAR
28IYO
28OLO
29RR
27II
27KO
27NGAA
28UNG
27O
28DD
27PU
27SII
28SUU
27TTE
27UC
28U
27VIYO
27WI
27YA
28O
28U
29J
12DIGIT EIGHT
18FIVE
19OUR
18NINE
18ONE
18SEVEN
19IX
18THREE
19WO
18ZERO
12NUMBER EIGHTY
19FIFTY
20ORTY
19NINETY
19SEVENTY
20IXTY
19TEN
20HIRTY
20WENTY
12OM
12SMALL LETTER A
26M
26NG
26T
25BU
25DA
25E
26NN
27Y
25GA
25HAR
26IYO
26OLO
27RR
25II
25KO
25NGAA
26UNG
25O
26DD
25PU
25SII
26SUU
25TTE
25UC
26U
25VIYO
25WI
25YA
26O
26U
27J
03NING SIGN
02STEBASKET
02TCH
03ER BUFFALO
06CLOSET
06POLO
06WAVE
05MELON
02VE ARROW POINTING DIRECTLY LEFT
29RIGHT
05DASH
03ING BLACK FLAG
07HAND SIGN
07WHITE FLAG
03Y DASH
05LINE
06OW LINE
05OVERLINE
02XING CRESCENT MOON SYMBOL
07GIBBOUS MOON SYMBOL
01EARY CAT FACE
06FACE
02DDING
03GE-TAILED RIGHTWARDS ARROW
02IERSTRASS ELLIPTIC FUNCTION
03GHT LIFTER
02ST SYRIAC CROSS
01HALE
02EEL
05 OF DHARMA
05CHAIR SYMBOL
02ITE ARROW SHAFT WIDTH ONE
24TWO THIRDS
06BULLET
06CHESS BISHOP
18 ROTATED NINETY DEGREES
27TWO HUNDRED SEVENTY DEGREES
12EQUIHOPPER
22 ROTATED NINETY DEGREES
12KING
16 ROTATED NINETY DEGREES
25TWO HUNDRED SEVENTY DEGREES
13NIGHT
18 ROTATED FORTY-FIVE DEGREES
27NINETY DEGREES
27ONE HUNDRED THIRTY-FIVE DEGREES
27THREE HUNDRED FIFTEEN DEGREES
28WO HUNDRED SEVENTY DEGREES
39TWENTY-FIVE DEGREES
18-BISHOP
19QUEEN
19ROOK
12PAWN
16 ROTATED NINETY DEGREES
25TWO HUNDRED SEVENTY DEGREES
12QUEEN
17 ROTATED NINETY DEGREES
26TWO HUNDRED SEVENTY DEGREES
12ROOK
16 ROTATED NINETY DEGREES
25TWO HUNDRED SEVENTY DEGREES
12TURNED BISHOP
19KING
20NIGHT
19PAWN
19QUEEN
19ROOK
07IRCLE
12 CONTAINING BLACK SMALL CIRCLE
13WITH DOT RIGHT
20WN ARROW
18LOWER LEFT QUADRANT
24RIGHT QUADRANT
18TWO DOTS
18UPPER LEFT QUADRANT
24RIGHT QUADRANT
07LUB SUIT
07ONCAVE-SIDED DIAMOND
27 WITH LEFTWARDS TICK
33RIGHTWARDS TICK
06DIAMOND
13 CONTAINING BLACK MEDIUM DIAMOND
31SMALL DIAMOND
31VERY SMALL DIAMOND
14IN SQUARE
14SUIT
14WITH CENTRED DOT
07OWN POINTING BACKHAND INDEX
20INDEX
20LEFT HAND INDEX
10-POINTING SMALL TRIANGLE
20TRIANGLE
07RAUGHTS KING
15MAN
06EXCLAMATION MARK ORNAMENT
06FLAG
10 WITH HORIZONTAL MIDDLE BLACK STRIPE
08ORETTE
09WER
07OUR POINTED CUSP
19STAR
07ROWNING FACE
06HARD SHELL FLOPPY DISK
07EART
11 SUIT
09VY CHECK MARK
12SALTIRE WITH ROUNDED CORNERS
08XAGON
07ORIZONTAL ELLIPSE
08URGLASS
06LARGE SQUARE
08TIN CROSS
07EFT LANE MERGE
11POINTING BACKHAND INDEX
20INDEX
10-POINTING POINTER
20SMALL TRIANGLE
20TRIANGLE
07OZENGE CONTAINING BLACK SMALL LOZENGE
06MEDIUM DIAMOND
13LOZENGE
13SMALL SQUARE
14QUARE
14TAR
07OON SELENA
06NIB
06PARALLELOGRAM
07ENNANT
09TAGON
06QUESTION MARK ORNAMENT
06RECTANGLE
07IGHT POINTING BACKHAND INDEX
21INDEX
11-POINTING PENTAGON
22OINTER
21SMALL TRIANGLE
21TRIANGLE
06SCISSORS
07ESAME DOT
07HOGI PIECE
07MALL LOZENGE
12SQUARE
13TAR
08ILING FACE
07PADE SUIT
07QUARE
12 BUTTON
13CONTAINING BLACK MEDIUM SQUARE
30SMALL SQUARE
30VERY SMALL SQUARE
13WITH CENTRE VERTICAL LINE
18LEFTWARDS TICK
19OWER LEFT QUADRANT
24RIGHT QUADRANT
18RIGHTWARDS TICK
19OUNDED CORNERS
18UPPER LEFT QUADRANT
24RIGHT QUADRANT
18VERTICAL BISECTING LINE
07TAR
07UN
09 BEHIND CLOUD
22 WITH RAIN
10WITH RAYS
15SMALL CLOUD
06TELEPHONE
07OUCHTONE TELEPHONE
07RAPEZIUM
08IANGLE CONTAINING SMALL WHITE TRIANGLE
07WO-WAY LEFT WAY TRAFFIC
06UP POINTING BACKHAND INDEX
18INDEX
08-POINTING CHEVRON
18SMALL TRIANGLE
18TRIANGLE
26 WITH DOT
06VERTICAL BAR
15ELLIPSE
15RECTANGLE
09Y SMALL SQUARE
05-FEATHERED RIGHTWARDS ARROW
01IDE-HEADED DOWNWARDS BARB ARROW
22HEAVY BARB ARROW
22LIGHT BARB ARROW
22MEDIUM BARB ARROW
22VERY HEAVY BARB ARROW
12LEFTWARDS BARB ARROW
22HEAVY BARB ARROW
22LIGHT BARB ARROW
22MEDIUM BARB ARROW
22VERY HEAVY BARB ARROW
12NORTH EAST BARB ARROW
23HEAVY BARB ARROW
23LIGHT BARB ARROW
23MEDIUM BARB ARROW
23VERY HEAVY BARB ARROW
18WEST BARB ARROW
23HEAVY BARB ARROW
23LIGHT BARB ARROW
23MEDIUM BARB ARROW
23VERY HEAVY BARB ARROW
12RIGHTWARDS BARB ARROW
23HEAVY BARB ARROW
23LIGHT BARB ARROW
23MEDIUM BARB ARROW
23VERY HEAVY BARB ARROW
12SOUTH EAST BARB ARROW
23HEAVY BARB ARROW
23LIGHT BARB ARROW
23MEDIUM BARB ARROW
23VERY HEAVY BARB ARROW
18WEST BARB ARROW
23HEAVY BARB ARROW
23LIGHT BARB ARROW
23MEDIUM BARB ARROW
23VERY HEAVY BARB ARROW
12UPWARDS BARB ARROW
20HEAVY BARB ARROW
20LIGHT BARB ARROW
20MEDIUM BARB ARROW
20VERY HEAVY BARB ARROW
02GGLY VERTICAL LINE
02LTED FLOWER
02ND BLOWING FACE
05CHIME
04OW
03E GLASS
03KING FACE
02RED KEYBOARD
01J
01OLF FACE
02MAN
05 WITH BUNNY EARS
05S BOOTS
07CLOTHES
07HAT
07SANDAL
03ENS SYMBOL
02N SIGN
02OD
02RD JOINER
05SEPARATOR MIDDLE DOT
03LD MAP
03M
03RIED FACE
01RAPPED PRESENT
02EATH PRODUCT
03NCH
03STLERS
02ITING HAND
00X IN A RECTANGLE BOX
01-RAY
01IANGQI BLACK CANNON
15HARIOT
14ELEPHANT
14GENERAL
14HORSE
14MANDARIN
14SOLDIER
08RED CANNON
13HARIOT
12ELEPHANT
12GENERAL
12HORSE
12MANDARIN
12SOLDIER
01OR
00YAWNING FACE
01ELLOW HEART
02N SIGN
02ZIDI COMBINING HAMZA MARK
17MADDA MARK
07HYPHENATION MARK
07LETTER BE
14CHHIM
16IM
15IM
14DAD
16L
14ELIF
15T
15W
15YN
14FA
14GAF
14HAY
15HA
14JA
14KAF
15HAF
14LAM
17 WITH DOT ABOVE
14MIM
14NUN
14OW
14PE
15HE
14QAF
14RA
15HA
14SAD
15E
15HIN
15IN
14TA
15HE
14UM
14VA
16 ALTERNATE FORM
14WAW
14XA
15HEYN
14YOT
17 WITH CIRCUMFLEX ABOVE
14ZA
16L
15E
01I RADICAL BBUT
12UR
11CHE
12IP
12UOP
12Y
13P
13T
11DDUR
12U
11GA
12EP
12GOP
13UO
12OT
11HMO
12XIT
13OP
13UO
11JJIE
13UT
13Y
12O
11KE
12IT
11LI
13E
12YR
11MI
12OP
11NBIE
12YIP
13OP
12ZUP
11OP
11PUT
12YT
11QOT
11SHAT
13OP
13UR
13Y
12SI
11TAT
12U
11VEP
12UR
11WO
11YIT
12O
11ZA
12OT
12UP
13R
12ZIET
03SYLLABLE A
13P
13T
13X
12BA
14P
14T
14X
13BA
15P
15T
15X
14E
15P
15X
14I
15E
16P
16T
16X
15P
15T
15X
14O
15P
15T
15X
14U
15O
16P
16X
15P
15R
16X
15T
15X
14Y
15P
15T
15X
13E
14P
14X
13I
14E
15P
15T
15X
14P
14T
14X
13O
14P
14T
14X
13U
14O
15P
15X
14P
14R
15X
14T
14X
13Y
14P
14R
15X
14T
14X
12CA
14P
14T
14X
13E
14P
14X
13HA
15P
15T
15X
14E
15P
15T
15X
14O
15P
15T
15X
14U
15O
16P
16T
16X
15P
15R
16X
15X
14Y
15P
15R
16X
15T
15X
13I
14E
15P
15T
15X
14P
14T
14X
13O
14P
14T
14X
13U
14O
15P
15X
14P
14R
15X
14T
14X
13Y
14P
14R
15X
14T
14X
12DA
14P
14T
14X
13DA
15P
15T
15X
14E
15P
15X
14I
15E
16P
16X
15P
15T
15X
14O
15P
15T
15X
14U
15O
16P
16X
15P
15R
16X
15T
15X
13E
14P
14X
13I
14E
15P
15X
14P
14T
14X
13O
14P
14T
14X
13U
14O
15X
14P
14R
15X
14T
14X
12E
13X
12FA
14P
14T
14X
13I
14P
14T
14X
13O
14P
14X
13U
14P
14R
15X
14T
14X
13Y
14P
14T
14X
12GA
14P
14T
14X
13E
14P
14T
14X
13GA
15P
15T
15X
14E
15P
15T
15X
14I
15E
16P
16X
15T
15X
14O
15P
15T
15X
14U
15O
16P
16T
16X
15P
15R
16X
15T
15X
13I
14E
15P
15T
15X
14P
14T
14X
13O
14P
14T
14X
13U
14O
15P
15T
15X
14P
14R
15X
14T
14X
12HA
14P
14T
14X
13E
14P
14X
13IE
15X
14T
13LA
15P
15T
15X
14E
15P
15X
14I
15E
16P
16X
15P
15T
15X
14O
15P
15X
14U
15O
16P
16X
15P
15R
16X
15T
15X
14Y
15P
15R
16X
15T
15X
13MA
15P
15T
15X
14I
15E
16P
16X
15P
15T
15X
14O
15P
15T
15X
14U
15O
16P
16X
15P
15R
16X
15T
15X
14Y
15P
15R
16X
15X
13NA
15P
15T
15X
14E
15P
15X
14I
15E
16P
16T
16X
15P
15T
15X
14OP
15T
15X
14UO
16X
15T
13O
14P
14T
14X
13UO
15P
15T
15X
13XA
15P
15T
15X
14E
15P
15X
14I
15E
16P
16T
16X
15P
15T
15X
14O
15P
15T
15X
14UO
16P
16T
16X
12I
13E
14P
14T
14X
13P
13T
14ERATION MARK
13X
12JI
14E
15P
15T
15X
14P
14T
14X
13JI
15E
16P
16T
16X
15P
15T
15X
14O
15P
15T
15X
14U
15O
16P
16X
15P
15R
16X
15T
15X
14Y
15P
15T
15X
13O
14P
14T
14X
13U
14O
15P
15T
15X
14P
14R
15X
14T
14X
13Y
14P
14R
15X
14T
14X
12KA
14P
14T
14X
13E
14P
14T
14X
13I
14E
15P
15X
14P
14T
14X
13O
14P
14T
14X
13U
14O
15P
15X
14P
14R
15X
14T
14X
12LA
14P
14T
14X
13E
14P
14X
13I
14E
15P
15T
15X
14P
14T
14X
13O
14P
14T
14X
13U
14O
15P
15T
15X
14P
14R
15X
14T
14X
13Y
14P
14R
15X
14T
14X
12MA
14P
14T
14X
13E
14X
13GA
15P
15T
15X
14E
15P
15X
14IE
16X
14O
15P
15T
15X
14U
15O
16P
16X
15P
15R
16X
15T
15X
13I
14E
15P
15X
14P
14T
14X
13O
14P
14T
14X
13U
14O
15P
15T
15X
14P
14R
15X
14T
14X
13Y
14P
14T
14X
12NA
14P
14X
13BA
15P
15T
15X
14I
15E
16P
16X
15P
15T
15X
14O
15P
15T
15X
14U
15P
15R
16X
15T
15X
14Y
15P
15R
16X
15T
15X
13DA
15P
15T
15X
14E
15P
15X
14I
15E
16X
15P
15T
15X
14O
15P
15T
15X
14U
15P
15R
16X
15T
15X
13E
14P
14X
13GA
15P
15T
15X
14E
15P
15X
14IE
16P
16X
14O
15P
15T
15X
14UO
16T
16X
13I
14E
15P
15X
14P
14T
14X
13JI
15E
16P
16T
16X
15P
15T
15X
14O
15P
15T
15X
14U
15O
16X
15P
15R
16X
15X
14Y
15P
15R
16X
15T
15X
13O
14P
14T
14X
13RA
15P
15T
15X
14E
15P
15T
15X
14O
15P
15X
14U
15P
15R
16X
15T
15X
14Y
15P
15R
16X
15T
15X
13U
14O
15P
15X
14P
14R
15X
14T
14X
13YI
15E
16P
16T
16X
15P
15T
15X
14O
15P
15T
15X
14U
15O
16P
16X
15P
15T
15X
13ZA
15P
15T
15X
14E
15X
14I
15E
16P
16X
15P
15T
15X
14OP
15X
14U
15O
16X
15P
15R
16X
15X
14Y
15P
15R
16X
15T
15X
12O
13P
13T
13X
12PA
14P
14T
14X
13I
14E
15P
15X
14P
14T
14X
13O
14P
14T
14X
13U
14O
15P
15X
14P
14R
15X
14T
14X
13Y
14P
14R
15X
14T
14X
12QI
14E
15P
15T
15X
14P
14T
14X
13O
14P
14T
14X
13U
14O
15P
15T
15X
14P
14R
15X
14T
14X
13Y
14P
14R
15X
14T
14X
12RA
14P
14T
14X
13E
14P
14X
13O
14P
14T
14X
13RA
15X
14E
15P
15T
15X
14O
15P
15T
15X
14U
15O
16X
15P
15R
16X
15T
15X
14Y
15P
15R
16X
15T
15X
13U
14O
15P
15X
14P
14R
15X
14T
14X
13Y
14P
14R
15X
14T
14X
12SA
14P
14T
14X
13E
14P
14X
13HA
15P
15T
15X
14E
15P
15T
15X
14O
15P
15T
15X
14U
15O
16P
16X
15P
15R
16X
15T
15X
14Y
15P
15R
16X
15T
15X
13I
14E
15P
15X
14P
14T
14X
13O
14P
14T
14X
13SA
15P
15T
15X
14E
15P
15X
14I
15E
16P
16X
15P
15T
15X
14O
15P
15T
15X
14U
15P
15T
15X
14Y
15P
15R
16X
15T
15X
13U
14O
15P
15X
14P
14R
15X
14T
14X
13Y
14P
14R
15X
14T
14X
12TA
14P
14T
14X
13E
14P
14X
13I
14E
15P
15X
14P
14T
14X
13O
14P
14T
14X
13U
14O
15P
15T
15X
14P
14R
15X
14T
14X
12UO
14P
14X
12VA
14P
14T
14X
13EP
14X
13I
14E
15P
15T
15X
14P
14T
14X
13O
14P
14T
14X
13U
14P
14R
15X
14T
14X
13Y
14P
14R
15X
14T
14X
12WA
14P
14T
14X
13E
14P
14X
13O
14P
14X
13U
14O
15P
15X
12XI
14E
15P
15T
15X
14P
14T
14X
13O
14P
14T
14X
13UO
15X
13Y
14P
14R
15X
14T
14X
12YI
14E
15P
15T
15X
14P
14T
14X
13O
14P
14T
14X
13U
14O
15P
15T
15X
14P
14R
15X
14T
14X
13Y
14P
14R
15X
14T
14X
12ZA
14P
14T
14X
13E
14P
14X
13HA
15P
15T
15X
14E
15P
15T
15X
14O
15P
15T
15X
14U
15O
16P
16X
15P
15R
16X
15T
15X
14Y
15P
15R
16X
15T
15X
13I
14E
15P
15X
14P
14T
14X
13O
14P
14T
14X
13U
14O
15P
15X
14P
14R
15X
14T
14X
13Y
14P
14R
15X
14T
14X
13ZA
15P
15T
15X
14E
15P
15X
14I
15E
16P
16T
16X
15P
15T
15X
14O
15P
15X
14U
15P
15R
16X
15X
14Y
15P
15R
16X
15T
15X
02N YANG
01O-YO
00Z NOTATION BAG MEMBERSHIP
11DOMAIN ANTIRESTRICTION
11LEFT BINDING BRACKET
16IMAGE BRACKET
11RANGE ANTIRESTRICTION
12ELATIONAL COMPOSITION
12IGHT BINDING BRACKET
17IMAGE BRACKET
11SCHEMA COMPOSITION
18PIPING
19ROJECTION
12POT
11TYPE COLON
01ANABAZAR SQUARE CLOSING DOUBLE-LINED HEAD MARK
25HEAD MARK
19USTER-FINAL LETTER LA
38RA
38VA
38YA
25INITIAL LETTER RA
17FINAL CONSONANT MARK
17INITIAL DOUBLE-LINED HEAD MARK
25HEAD MARK
17LETTER -A
24A
24BA
25HA
24CA
25HA
24DA
25DA
26HA
25HA
25ZA
26HA
24GA
25HA
24HA
24JA
24KA
25HA
25SSA
24LA
24MA
24NA
25GA
25NA
25YA
24PA
25HA
24RA
24SA
25HA
25SA
24TA
25HA
25SA
26HA
25TA
26HA
24VA
24YA
24ZA
25HA
17MARK DOUBLE SHAD
22LONG TSHEG
22SHAD
22TSHEG
17SIGN ANUSVARA
22CANDRA WITH ORNAMENT
28BINDU
33 WITH ORNAMENT
22VIRAMA
24SARGA
18UBJOINER
17VOWEL LENGTH MARK
23SIGN AI
29U
28E
28I
28O
29E
28REVERSED I
28U
29E
01EBRA FACE
02RO WIDTH JOINER
11NO-BREAK SPACE
13N-JOINER
11SPACE
02US
01IPPER-MOUTH FACE
01NAMENNY COMBINING ATTACHING VERTICAL OMET
19LOWER TONAL RANGE INDICATOR
19MARK BORZAYA
24CHASHKA
31 POLNAYA
25URVED OMET
24DEMESTVENNY ZADERZHKA
25VOETOCHIE
24GORAZDO NIZKO ON LEFT
41RIGHT
38S KRYZHEM ON LEFT
51RIGHT
32VYSOKO
24KACHKA
25RYZH
29 ON LEFT
25UPNAYA
24LOMKA
24MALO POVYSHE ON LEFT
40RIGHT
37S KHOKHLOM ON LEFT
51RIGHT
40RYZHEM
38TRANNO
24NIZKO ON LEFT
33RIGHT
30S KRYZHEM ON LEFT
43RIGHT
24OBLACHKO
25N
25TSECHKA
24PODCHASHIE
34 WITH VERTICAL STROKE
27VERTKA
26VYSHE ON LEFT
35RIGHT
32S KHOKHLOM ON LEFT
46RIGHT
35RYZHEM
33TRANNO
24RAVNO
26ZSEKA
24SKOBA
25OROCHYA NOZHKA
25REDNE ON LEFT
34RIGHT
25TRANNO MALO POVYSHE
24TIKHAYA
25OCHKA
25SATA ON LEFT
33RIGHT
30S KRYZHEM
24UDARKA
24VYSOKO ON LEFT
34RIGHT
31S KHOKHLOM ON LEFT
45RIGHT
34RYZHEM
24ZADERZHKA
25ELO
26VOK
19TONAL RANGE MARK MRACHNO
36SVETLO
36TRESVETLO
09NEUME CHASHKA
17ELYUSTKA
15DEMESTVENNY KLYUCH
17RBITSA
16OUBLE ZAPYATAYA
16UDA
16VA V CHELNU
15FITA
15GOLUBCHIK BORZY
25MRACHNY
25SVETLY
25TIKHY
26RESVETLY
15KHAMILO
16LYUCH
16OBYLA
16RYUK
20 TIKHY
18ZH
16UFISMA
15MECHIK
21 KLYUCHENEPOSTOYANNY
29POVODNY
29VOY
22POVODNY
15NEMKA
15OBLAKO
16SOKA
20 KLYUCHEVAYA NEPOSTOYANNAYA
33SVETLAYA
22RYUKOVAYA SVETLAYA
21SVETLAYA
21TRESVETLAYA
15PALKA
17RAKLIT
17UK
16EREVODKA
24 NEPOSTOYANNAYA
16ODCHASHIE
17LKULIZMY
15REVERSED CHELYUSTKA
16OG
15SKAMEYTSA DVOECHELNAYA KLYUCHEVAYA
38NEPOSTOYANNAYA
38PROSTAYA
38SVETLAYA
25KLYUCHENEPOSTOYANNAYA
32VAYA SVETLAYA
37TIKHAYA
25MRACHNAYA
25SVETLAYA
25TIKHAYA
26RESVETLAYA
16LOZHITIE
24 S KRYZHEM
27ZAPYATOY
25ZAKRYTOE
16TATYA
21 NEPOSTOYANNAYA
22S DVUMYA ZAPYATYMI
24KRYZHEM
31 I ZAPYATOY
24ROGOM
24ZAPYATOY
32 I KRYZHEM
35PODCHASHIEM
22ZAKRYTAYA
31 S ZAPYATOY
17OPITSA
23 S OCHKOM
24WITH SOROCHYA NOZHKA
17RELA DVOECHELNAYA
34 KLYUCHEVAYA
31OKRYZHEVAYA
32POVODNAYA
41 KLYUCHEVAYA
22GROMNAYA
30 WITH SINGLE ZAPYATAYA
26OKRYZHEVAYA
37 POVODNAYA
27POVODNAYA
36 WITH DOUBLE ZAPYATAYA
42SINGLE ZAPYATAYA
22KLYUCHENEPOSTOYANNAYA
29POVODNAYA
23RYUKOVAYA
32 GROMNAYA
41 WITH SINGLE ZAPYATAYA
37OKRYZHEVAYA
48 POVODNAYA
38POVODNAYA
47 WITH DOUBLE ZAPYATAYA
53SINGLE ZAPYATAYA
33POVODNAYA
33TRYASKA
25ZHEVAYA
22MRACHNOTIKHAYA
22NEPOSTOYANNAYA
22POLUPOVODNAYA
24VODNAYA
23ROSTAYA
22TIKHAYA PUTNAYA
23RYASOGLASNAYA
28POVODNAYA
28STRELNAYA
15VRAKHIYA KLYUCHEVAYA MRACHNAYA
36PROSTAYA
36SVETLAYA
36TRESVETLAYA
24MRACHNAYA
24PROSTAYA
24SVETLAYA
24TRESVETLAYA
15ZANOZHEK
17PYATAYA
16MEYTSA
09PRIZNAK MODIFIER DIRECTION FLIP
26KRYZH
26LEVEL-2
323
26ROG
01OMBIE
01WJ
02NBSP
03J
02SP"

/-- All tables; each starts anew. -/
def tables : List String := [
  namesA, namesB, namesC, namesD, namesE, namesF, namesG, namesH]

end JsLiteral.CharacterName
