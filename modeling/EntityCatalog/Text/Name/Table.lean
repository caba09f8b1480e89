namespace EntityCatalog.Text

def nameTable : String :=
    "20 SPACE
21 EXCLAMATION MARK
22 QUOTATION MARK
23 NUMBER SIGN
24 DOLLAR SIGN
25 PERCENT SIGN
26 AMPERSAND
27 APOSTROPHE
28 LEFT PARENTHESIS
29 RIGHT PARENTHESIS
2a ASTERISK
2b PLUS SIGN
2c COMMA
2d HYPHEN-MINUS
2e FULL STOP
2f SOLIDUS
30 DIGIT ZERO
31 DIGIT ONE
32 DIGIT TWO
33 DIGIT THREE
34 DIGIT FOUR
35 DIGIT FIVE
36 DIGIT SIX
37 DIGIT SEVEN
38 DIGIT EIGHT
39 DIGIT NINE
3a COLON
3b SEMICOLON
3c LESS-THAN SIGN
3d EQUALS SIGN
3e GREATER-THAN SIGN
3f QUESTION MARK
40 COMMERCIAL AT
41 LATIN CAPITAL LETTER A
42 LATIN CAPITAL LETTER B
43 LATIN CAPITAL LETTER C
44 LATIN CAPITAL LETTER D
45 LATIN CAPITAL LETTER E
46 LATIN CAPITAL LETTER F
47 LATIN CAPITAL LETTER G
48 LATIN CAPITAL LETTER H
49 LATIN CAPITAL LETTER I
4a LATIN CAPITAL LETTER J
4b LATIN CAPITAL LETTER K
4c LATIN CAPITAL LETTER L
4d LATIN CAPITAL LETTER M
4e LATIN CAPITAL LETTER N
4f LATIN CAPITAL LETTER O
50 LATIN CAPITAL LETTER P
51 LATIN CAPITAL LETTER Q
52 LATIN CAPITAL LETTER R
53 LATIN CAPITAL LETTER S
54 LATIN CAPITAL LETTER T
55 LATIN CAPITAL LETTER U
56 LATIN CAPITAL LETTER V
57 LATIN CAPITAL LETTER W
58 LATIN CAPITAL LETTER X
59 LATIN CAPITAL LETTER Y
5a LATIN CAPITAL LETTER Z
5b LEFT SQUARE BRACKET
5c REVERSE SOLIDUS
5d RIGHT SQUARE BRACKET
5e CIRCUMFLEX ACCENT
5f LOW LINE
60 GRAVE ACCENT
61 LATIN SMALL LETTER A
62 LATIN SMALL LETTER B
63 LATIN SMALL LETTER C
64 LATIN SMALL LETTER D
65 LATIN SMALL LETTER E
66 LATIN SMALL LETTER F
67 LATIN SMALL LETTER G
68 LATIN SMALL LETTER H
69 LATIN SMALL LETTER I
6a LATIN SMALL LETTER J
6b LATIN SMALL LETTER K
6c LATIN SMALL LETTER L
6d LATIN SMALL LETTER M
6e LATIN SMALL LETTER N
6f LATIN SMALL LETTER O
70 LATIN SMALL LETTER P
71 LATIN SMALL LETTER Q
72 LATIN SMALL LETTER R
73 LATIN SMALL LETTER S
74 LATIN SMALL LETTER T
75 LATIN SMALL LETTER U
76 LATIN SMALL LETTER V
77 LATIN SMALL LETTER W
78 LATIN SMALL LETTER X
79 LATIN SMALL LETTER Y
7a LATIN SMALL LETTER Z
7b LEFT CURLY BRACKET
7c VERTICAL LINE
7d RIGHT CURLY BRACKET
7e TILDE
a0 NO-BREAK SPACE
a1 INVERTED EXCLAMATION MARK
a2 CENT SIGN
a3 POUND SIGN
a4 CURRENCY SIGN
a5 YEN SIGN
a6 BROKEN BAR
a7 SECTION SIGN
a8 DIAERESIS
a9 COPYRIGHT SIGN
aa FEMININE ORDINAL INDICATOR
ab LEFT-POINTING DOUBLE ANGLE QUOTATION MARK
ac NOT SIGN
ad SOFT HYPHEN
ae REGISTERED SIGN
af MACRON
b0 DEGREE SIGN
b1 PLUS-MINUS SIGN
b2 SUPERSCRIPT TWO
b3 SUPERSCRIPT THREE
b4 ACUTE ACCENT
b5 MICRO SIGN
b6 PILCROW SIGN
b7 MIDDLE DOT
b8 CEDILLA
b9 SUPERSCRIPT ONE
ba MASCULINE ORDINAL INDICATOR
bb RIGHT-POINTING DOUBLE ANGLE QUOTATION MARK
bc VULGAR FRACTION ONE QUARTER
bd VULGAR FRACTION ONE HALF
be VULGAR FRACTION THREE QUARTERS
bf INVERTED QUESTION MARK
c0 LATIN CAPITAL LETTER A WITH GRAVE
c1 LATIN CAPITAL LETTER A WITH ACUTE
c2 LATIN CAPITAL LETTER A WITH CIRCUMFLEX
c3 LATIN CAPITAL LETTER A WITH TILDE
c4 LATIN CAPITAL LETTER A WITH DIAERESIS
c5 LATIN CAPITAL LETTER A WITH RING ABOVE
c6 LATIN CAPITAL LETTER AE
c7 LATIN CAPITAL LETTER C WITH CEDILLA
c8 LATIN CAPITAL LETTER E WITH GRAVE
c9 LATIN CAPITAL LETTER E WITH ACUTE
ca LATIN CAPITAL LETTER E WITH CIRCUMFLEX
cb LATIN CAPITAL LETTER E WITH DIAERESIS
cc LATIN CAPITAL LETTER I WITH GRAVE
cd LATIN CAPITAL LETTER I WITH ACUTE
ce LATIN CAPITAL LETTER I WITH CIRCUMFLEX
cf LATIN CAPITAL LETTER I WITH DIAERESIS
d0 LATIN CAPITAL LETTER ETH
d1 LATIN CAPITAL LETTER N WITH TILDE
d2 LATIN CAPITAL LETTER O WITH GRAVE
d3 LATIN CAPITAL LETTER O WITH ACUTE
d4 LATIN CAPITAL LETTER O WITH CIRCUMFLEX
d5 LATIN CAPITAL LETTER O WITH TILDE
d6 LATIN CAPITAL LETTER O WITH DIAERESIS
d7 MULTIPLICATION SIGN
d8 LATIN CAPITAL LETTER O WITH STROKE
d9 LATIN CAPITAL LETTER U WITH GRAVE
da LATIN CAPITAL LETTER U WITH ACUTE
db LATIN CAPITAL LETTER U WITH CIRCUMFLEX
dc LATIN CAPITAL LETTER U WITH DIAERESIS
dd LATIN CAPITAL LETTER Y WITH ACUTE
de LATIN CAPITAL LETTER THORN
df LATIN SMALL LETTER SHARP S
e0 LATIN SMALL LETTER A WITH GRAVE
e1 LATIN SMALL LETTER A WITH ACUTE
e2 LATIN SMALL LETTER A WITH CIRCUMFLEX
e3 LATIN SMALL LETTER A WITH TILDE
e4 LATIN SMALL LETTER A WITH DIAERESIS
e5 LATIN SMALL LETTER A WITH RING ABOVE
e6 LATIN SMALL LETTER AE
e7 LATIN SMALL LETTER C WITH CEDILLA
e8 LATIN SMALL LETTER E WITH GRAVE
e9 LATIN SMALL LETTER E WITH ACUTE
ea LATIN SMALL LETTER E WITH CIRCUMFLEX
eb LATIN SMALL LETTER E WITH DIAERESIS
ec LATIN SMALL LETTER I WITH GRAVE
ed LATIN SMALL LETTER I WITH ACUTE
ee LATIN SMALL LETTER I WITH CIRCUMFLEX
ef LATIN SMALL LETTER I WITH DIAERESIS
f0 LATIN SMALL LETTER ETH
f1 LATIN SMALL LETTER N WITH TILDE
f2 LATIN SMALL LETTER O WITH GRAVE
f3 LATIN SMALL LETTER O WITH ACUTE
f4 LATIN SMALL LETTER O WITH CIRCUMFLEX
f5 LATIN SMALL LETTER O WITH TILDE
f6 LATIN SMALL LETTER O WITH DIAERESIS
f7 DIVISION SIGN
f8 LATIN SMALL LETTER O WITH STROKE
f9 LATIN SMALL LETTER U WITH GRAVE
fa LATIN SMALL LETTER U WITH ACUTE
fb LATIN SMALL LETTER U WITH CIRCUMFLEX
fc LATIN SMALL LETTER U WITH DIAERESIS
fd LATIN SMALL LETTER Y WITH ACUTE
fe LATIN SMALL LETTER THORN
ff LATIN SMALL LETTER Y WITH DIAERESIS
100 LATIN CAPITAL LETTER A WITH MACRON
101 LATIN SMALL LETTER A WITH MACRON
102 LATIN CAPITAL LETTER A WITH BREVE
103 LATIN SMALL LETTER A WITH BREVE
104 LATIN CAPITAL LETTER A WITH OGONEK
105 LATIN SMALL LETTER A WITH OGONEK
106 LATIN CAPITAL LETTER C WITH ACUTE
107 LATIN SMALL LETTER C WITH ACUTE
108 LATIN CAPITAL LETTER C WITH CIRCUMFLEX
109 LATIN SMALL LETTER C WITH CIRCUMFLEX
10a LATIN CAPITAL LETTER C WITH DOT ABOVE
10b LATIN SMALL LETTER C WITH DOT ABOVE
10c LATIN CAPITAL LETTER C WITH CARON
10d LATIN SMALL LETTER C WITH CARON
10e LATIN CAPITAL LETTER D WITH CARON
10f LATIN SMALL LETTER D WITH CARON
110 LATIN CAPITAL LETTER D WITH STROKE
111 LATIN SMALL LETTER D WITH STROKE
112 LATIN CAPITAL LETTER E WITH MACRON
113 LATIN SMALL LETTER E WITH MACRON
114 LATIN CAPITAL LETTER E WITH BREVE
115 LATIN SMALL LETTER E WITH BREVE
116 LATIN CAPITAL LETTER E WITH DOT ABOVE
117 LATIN SMALL LETTER E WITH DOT ABOVE
118 LATIN CAPITAL LETTER E WITH OGONEK
119 LATIN SMALL LETTER E WITH OGONEK
11a LATIN CAPITAL LETTER E WITH CARON
11b LATIN SMALL LETTER E WITH CARON
11c LATIN CAPITAL LETTER G WITH CIRCUMFLEX
11d LATIN SMALL LETTER G WITH CIRCUMFLEX
11e LATIN CAPITAL LETTER G WITH BREVE
11f LATIN SMALL LETTER G WITH BREVE
120 LATIN CAPITAL LETTER G WITH DOT ABOVE
121 LATIN SMALL LETTER G WITH DOT ABOVE
122 LATIN CAPITAL LETTER G WITH CEDILLA
123 LATIN SMALL LETTER G WITH CEDILLA
124 LATIN CAPITAL LETTER H WITH CIRCUMFLEX
125 LATIN SMALL LETTER H WITH CIRCUMFLEX
126 LATIN CAPITAL LETTER H WITH STROKE
127 LATIN SMALL LETTER H WITH STROKE
128 LATIN CAPITAL LETTER I WITH TILDE
129 LATIN SMALL LETTER I WITH TILDE
12a LATIN CAPITAL LETTER I WITH MACRON
12b LATIN SMALL LETTER I WITH MACRON
12c LATIN CAPITAL LETTER I WITH BREVE
12d LATIN SMALL LETTER I WITH BREVE
12e LATIN CAPITAL LETTER I WITH OGONEK
12f LATIN SMALL LETTER I WITH OGONEK
130 LATIN CAPITAL LETTER I WITH DOT ABOVE
131 LATIN SMALL LETTER DOTLESS I
132 LATIN CAPITAL LIGATURE IJ
133 LATIN SMALL LIGATURE IJ
134 LATIN CAPITAL LETTER J WITH CIRCUMFLEX
135 LATIN SMALL LETTER J WITH CIRCUMFLEX
136 LATIN CAPITAL LETTER K WITH CEDILLA
137 LATIN SMALL LETTER K WITH CEDILLA
138 LATIN SMALL LETTER KRA
139 LATIN CAPITAL LETTER L WITH ACUTE
13a LATIN SMALL LETTER L WITH ACUTE
13b LATIN CAPITAL LETTER L WITH CEDILLA
13c LATIN SMALL LETTER L WITH CEDILLA
13d LATIN CAPITAL LETTER L WITH CARON
13e LATIN SMALL LETTER L WITH CARON
13f LATIN CAPITAL LETTER L WITH MIDDLE DOT
140 LATIN SMALL LETTER L WITH MIDDLE DOT
141 LATIN CAPITAL LETTER L WITH STROKE
142 LATIN SMALL LETTER L WITH STROKE
143 LATIN CAPITAL LETTER N WITH ACUTE
144 LATIN SMALL LETTER N WITH ACUTE
145 LATIN CAPITAL LETTER N WITH CEDILLA
146 LATIN SMALL LETTER N WITH CEDILLA
147 LATIN CAPITAL LETTER N WITH CARON
148 LATIN SMALL LETTER N WITH CARON
149 LATIN SMALL LETTER N PRECEDED BY APOSTROPHE
14a LATIN CAPITAL LETTER ENG
14b LATIN SMALL LETTER ENG
14c LATIN CAPITAL LETTER O WITH MACRON
14d LATIN SMALL LETTER O WITH MACRON
14e LATIN CAPITAL LETTER O WITH BREVE
14f LATIN SMALL LETTER O WITH BREVE
150 LATIN CAPITAL LETTER O WITH DOUBLE ACUTE
151 LATIN SMALL LETTER O WITH DOUBLE ACUTE
152 LATIN CAPITAL LIGATURE OE
153 LATIN SMALL LIGATURE OE
154 LATIN CAPITAL LETTER R WITH ACUTE
155 LATIN SMALL LETTER R WITH ACUTE
156 LATIN CAPITAL LETTER R WITH CEDILLA
157 LATIN SMALL LETTER R WITH CEDILLA
158 LATIN CAPITAL LETTER R WITH CARON
159 LATIN SMALL LETTER R WITH CARON
15a LATIN CAPITAL LETTER S WITH ACUTE
15b LATIN SMALL LETTER S WITH ACUTE
15c LATIN CAPITAL LETTER S WITH CIRCUMFLEX
15d LATIN SMALL LETTER S WITH CIRCUMFLEX
15e LATIN CAPITAL LETTER S WITH CEDILLA
15f LATIN SMALL LETTER S WITH CEDILLA
160 LATIN CAPITAL LETTER S WITH CARON
161 LATIN SMALL LETTER S WITH CARON
162 LATIN CAPITAL LETTER T WITH CEDILLA
163 LATIN SMALL LETTER T WITH CEDILLA
164 LATIN CAPITAL LETTER T WITH CARON
165 LATIN SMALL LETTER T WITH CARON
166 LATIN CAPITAL LETTER T WITH STROKE
167 LATIN SMALL LETTER T WITH STROKE
168 LATIN CAPITAL LETTER U WITH TILDE
169 LATIN SMALL LETTER U WITH TILDE
16a LATIN CAPITAL LETTER U WITH MACRON
16b LATIN SMALL LETTER U WITH MACRON
16c LATIN CAPITAL LETTER U WITH BREVE
16d LATIN SMALL LETTER U WITH BREVE
16e LATIN CAPITAL LETTER U WITH RING ABOVE
16f LATIN SMALL LETTER U WITH RING ABOVE
170 LATIN CAPITAL LETTER U WITH DOUBLE ACUTE
171 LATIN SMALL LETTER U WITH DOUBLE ACUTE
172 LATIN CAPITAL LETTER U WITH OGONEK
173 LATIN SMALL LETTER U WITH OGONEK
174 LATIN CAPITAL LETTER W WITH CIRCUMFLEX
175 LATIN SMALL LETTER W WITH CIRCUMFLEX
176 LATIN CAPITAL LETTER Y WITH CIRCUMFLEX
177 LATIN SMALL LETTER Y WITH CIRCUMFLEX
178 LATIN CAPITAL LETTER Y WITH DIAERESIS
179 LATIN CAPITAL LETTER Z WITH ACUTE
17a LATIN SMALL LETTER Z WITH ACUTE
17b LATIN CAPITAL LETTER Z WITH DOT ABOVE
17c LATIN SMALL LETTER Z WITH DOT ABOVE
17d LATIN CAPITAL LETTER Z WITH CARON
17e LATIN SMALL LETTER Z WITH CARON
17f LATIN SMALL LETTER LONG S
300 COMBINING GRAVE ACCENT
301 COMBINING ACUTE ACCENT
302 COMBINING CIRCUMFLEX ACCENT
303 COMBINING TILDE
304 COMBINING MACRON
305 COMBINING OVERLINE
306 COMBINING BREVE
307 COMBINING DOT ABOVE
308 COMBINING DIAERESIS
309 COMBINING HOOK ABOVE
30a COMBINING RING ABOVE
30b COMBINING DOUBLE ACUTE ACCENT
30c COMBINING CARON
30d COMBINING VERTICAL LINE ABOVE
30e COMBINING DOUBLE VERTICAL LINE ABOVE
30f COMBINING DOUBLE GRAVE ACCENT
310 COMBINING CANDRABINDU
311 COMBINING INVERTED BREVE
312 COMBINING TURNED COMMA ABOVE
313 COMBINING COMMA ABOVE
314 COMBINING REVERSED COMMA ABOVE
315 COMBINING COMMA ABOVE RIGHT
316 COMBINING GRAVE ACCENT BELOW
317 COMBINING ACUTE ACCENT BELOW
318 COMBINING LEFT TACK BELOW
319 COMBINING RIGHT TACK BELOW
31a COMBINING LEFT ANGLE ABOVE
31b COMBINING HORN
31c COMBINING LEFT HALF RING BELOW
31d COMBINING UP TACK BELOW
31e COMBINING DOWN TACK BELOW
31f COMBINING PLUS SIGN BELOW
320 COMBINING MINUS SIGN BELOW
321 COMBINING PALATALIZED HOOK BELOW
322 COMBINING RETROFLEX HOOK BELOW
323 COMBINING DOT BELOW
324 COMBINING DIAERESIS BELOW
325 COMBINING RING BELOW
326 COMBINING COMMA BELOW
327 COMBINING CEDILLA
328 COMBINING OGONEK
329 COMBINING VERTICAL LINE BELOW
32a COMBINING BRIDGE BELOW
32b COMBINING INVERTED DOUBLE ARCH BELOW
32c COMBINING CARON BELOW
32d COMBINING CIRCUMFLEX ACCENT BELOW
32e COMBINING BREVE BELOW
32f COMBINING INVERTED BREVE BELOW
330 COMBINING TILDE BELOW
331 COMBINING MACRON BELOW
332 COMBINING LOW LINE
333 COMBINING DOUBLE LOW LINE
334 COMBINING TILDE OVERLAY
335 COMBINING SHORT STROKE OVERLAY
336 COMBINING LONG STROKE OVERLAY
337 COMBINING SHORT SOLIDUS OVERLAY
338 COMBINING LONG SOLIDUS OVERLAY
339 COMBINING RIGHT HALF RING BELOW
33a COMBINING INVERTED BRIDGE BELOW
33b COMBINING SQUARE BELOW
33c COMBINING SEAGULL BELOW
33d COMBINING X ABOVE
33e COMBINING VERTICAL TILDE
33f COMBINING DOUBLE OVERLINE
340 COMBINING GRAVE TONE MARK
341 COMBINING ACUTE TONE MARK
342 COMBINING GREEK PERISPOMENI
343 COMBINING GREEK KORONIS
344 COMBINING GREEK DIALYTIKA TONOS
345 COMBINING GREEK YPOGEGRAMMENI
346 COMBINING BRIDGE ABOVE
347 COMBINING EQUALS SIGN BELOW
348 COMBINING DOUBLE VERTICAL LINE BELOW
349 COMBINING LEFT ANGLE BELOW
34a COMBINING NOT TILDE ABOVE
34b COMBINING HOMOTHETIC ABOVE
34c COMBINING ALMOST EQUAL TO ABOVE
34d COMBINING LEFT RIGHT ARROW BELOW
34e COMBINING UPWARDS ARROW BELOW
34f COMBINING GRAPHEME JOINER
350 COMBINING RIGHT ARROWHEAD ABOVE
351 COMBINING LEFT HALF RING ABOVE
352 COMBINING FERMATA
353 COMBINING X BELOW
354 COMBINING LEFT ARROWHEAD BELOW
355 COMBINING RIGHT ARROWHEAD BELOW
356 COMBINING RIGHT ARROWHEAD AND UP ARROWHEAD BELOW
357 COMBINING RIGHT HALF RING ABOVE
358 COMBINING DOT ABOVE RIGHT
359 COMBINING ASTERISK BELOW
35a COMBINING DOUBLE RING BELOW
35b COMBINING ZIGZAG ABOVE
35c COMBINING DOUBLE BREVE BELOW
35d COMBINING DOUBLE BREVE
35e COMBINING DOUBLE MACRON
35f COMBINING DOUBLE MACRON BELOW
360 COMBINING DOUBLE TILDE
361 COMBINING DOUBLE INVERTED BREVE
362 COMBINING DOUBLE RIGHTWARDS ARROW BELOW
363 COMBINING LATIN SMALL LETTER A
364 COMBINING LATIN SMALL LETTER E
365 COMBINING LATIN SMALL LETTER I
366 COMBINING LATIN SMALL LETTER O
367 COMBINING LATIN SMALL LETTER U
368 COMBINING LATIN SMALL LETTER C
369 COMBINING LATIN SMALL LETTER D
36a COMBINING LATIN SMALL LETTER H
36b COMBINING LATIN SMALL LETTER M
36c COMBINING LATIN SMALL LETTER R
36d COMBINING LATIN SMALL LETTER T
36e COMBINING LATIN SMALL LETTER V
36f COMBINING LATIN SMALL LETTER X
370 GREEK CAPITAL LETTER HETA
371 GREEK SMALL LETTER HETA
372 GREEK CAPITAL LETTER ARCHAIC SAMPI
373 GREEK SMALL LETTER ARCHAIC SAMPI
374 GREEK NUMERAL SIGN
375 GREEK LOWER NUMERAL SIGN
376 GREEK CAPITAL LETTER PAMPHYLIAN DIGAMMA
377 GREEK SMALL LETTER PAMPHYLIAN DIGAMMA
37a GREEK YPOGEGRAMMENI
37b GREEK SMALL REVERSED LUNATE SIGMA SYMBOL
37c GREEK SMALL DOTTED LUNATE SIGMA SYMBOL
37d GREEK SMALL REVERSED DOTTED LUNATE SIGMA SYMBOL
37e GREEK QUESTION MARK
37f GREEK CAPITAL LETTER YOT
384 GREEK TONOS
385 GREEK DIALYTIKA TONOS
386 GREEK CAPITAL LETTER ALPHA WITH TONOS
387 GREEK ANO TELEIA
388 GREEK CAPITAL LETTER EPSILON WITH TONOS
389 GREEK CAPITAL LETTER ETA WITH TONOS
38a GREEK CAPITAL LETTER IOTA WITH TONOS
38c GREEK CAPITAL LETTER OMICRON WITH TONOS
38e GREEK CAPITAL LETTER UPSILON WITH TONOS
38f GREEK CAPITAL LETTER OMEGA WITH TONOS
390 GREEK SMALL LETTER IOTA WITH DIALYTIKA AND TONOS
391 GREEK CAPITAL LETTER ALPHA
392 GREEK CAPITAL LETTER BETA
393 GREEK CAPITAL LETTER GAMMA
394 GREEK CAPITAL LETTER DELTA
395 GREEK CAPITAL LETTER EPSILON
396 GREEK CAPITAL LETTER ZETA
397 GREEK CAPITAL LETTER ETA
398 GREEK CAPITAL LETTER THETA
399 GREEK CAPITAL LETTER IOTA
39a GREEK CAPITAL LETTER KAPPA
39b GREEK CAPITAL LETTER LAMDA
39c GREEK CAPITAL LETTER MU
39d GREEK CAPITAL LETTER NU
39e GREEK CAPITAL LETTER XI
39f GREEK CAPITAL LETTER OMICRON
3a0 GREEK CAPITAL LETTER PI
3a1 GREEK CAPITAL LETTER RHO
3a3 GREEK CAPITAL LETTER SIGMA
3a4 GREEK CAPITAL LETTER TAU
3a5 GREEK CAPITAL LETTER UPSILON
3a6 GREEK CAPITAL LETTER PHI
3a7 GREEK CAPITAL LETTER CHI
3a8 GREEK CAPITAL LETTER PSI
3a9 GREEK CAPITAL LETTER OMEGA
3aa GREEK CAPITAL LETTER IOTA WITH DIALYTIKA
3ab GREEK CAPITAL LETTER UPSILON WITH DIALYTIKA
3ac GREEK SMALL LETTER ALPHA WITH TONOS
3ad GREEK SMALL LETTER EPSILON WITH TONOS
3ae GREEK SMALL LETTER ETA WITH TONOS
3af GREEK SMALL LETTER IOTA WITH TONOS
3b0 GREEK SMALL LETTER UPSILON WITH DIALYTIKA AND TONOS
3b1 GREEK SMALL LETTER ALPHA
3b2 GREEK SMALL LETTER BETA
3b3 GREEK SMALL LETTER GAMMA
3b4 GREEK SMALL LETTER DELTA
3b5 GREEK SMALL LETTER EPSILON
3b6 GREEK SMALL LETTER ZETA
3b7 GREEK SMALL LETTER ETA
3b8 GREEK SMALL LETTER THETA
3b9 GREEK SMALL LETTER IOTA
3ba GREEK SMALL LETTER KAPPA
3bb GREEK SMALL LETTER LAMDA
3bc GREEK SMALL LETTER MU
3bd GREEK SMALL LETTER NU
3be GREEK SMALL LETTER XI
3bf GREEK SMALL LETTER OMICRON
3c0 GREEK SMALL LETTER PI
3c1 GREEK SMALL LETTER RHO
3c2 GREEK SMALL LETTER FINAL SIGMA
3c3 GREEK SMALL LETTER SIGMA
3c4 GREEK SMALL LETTER TAU
3c5 GREEK SMALL LETTER UPSILON
3c6 GREEK SMALL LETTER PHI
3c7 GREEK SMALL LETTER CHI
3c8 GREEK SMALL LETTER PSI
3c9 GREEK SMALL LETTER OMEGA
3ca GREEK SMALL LETTER IOTA WITH DIALYTIKA
3cb GREEK SMALL LETTER UPSILON WITH DIALYTIKA
3cc GREEK SMALL LETTER OMICRON WITH TONOS
3cd GREEK SMALL LETTER UPSILON WITH TONOS
3ce GREEK SMALL LETTER OMEGA WITH TONOS
3cf GREEK CAPITAL KAI SYMBOL
3d0 GREEK BETA SYMBOL
3d1 GREEK THETA SYMBOL
3d2 GREEK UPSILON WITH HOOK SYMBOL
3d3 GREEK UPSILON WITH ACUTE AND HOOK SYMBOL
3d4 GREEK UPSILON WITH DIAERESIS AND HOOK SYMBOL
3d5 GREEK PHI SYMBOL
3d6 GREEK PI SYMBOL
3d7 GREEK KAI SYMBOL
3d8 GREEK LETTER ARCHAIC KOPPA
3d9 GREEK SMALL LETTER ARCHAIC KOPPA
3da GREEK LETTER STIGMA
3db GREEK SMALL LETTER STIGMA
3dc GREEK LETTER DIGAMMA
3dd GREEK SMALL LETTER DIGAMMA
3de GREEK LETTER KOPPA
3df GREEK SMALL LETTER KOPPA
3e0 GREEK LETTER SAMPI
3e1 GREEK SMALL LETTER SAMPI
3e2 COPTIC CAPITAL LETTER SHEI
3e3 COPTIC SMALL LETTER SHEI
3e4 COPTIC CAPITAL LETTER FEI
3e5 COPTIC SMALL LETTER FEI
3e6 COPTIC CAPITAL LETTER KHEI
3e7 COPTIC SMALL LETTER KHEI
3e8 COPTIC CAPITAL LETTER HORI
3e9 COPTIC SMALL LETTER HORI
3ea COPTIC CAPITAL LETTER GANGIA
3eb COPTIC SMALL LETTER GANGIA
3ec COPTIC CAPITAL LETTER SHIMA
3ed COPTIC SMALL LETTER SHIMA
3ee COPTIC CAPITAL LETTER DEI
3ef COPTIC SMALL LETTER DEI
3f0 GREEK KAPPA SYMBOL
3f1 GREEK RHO SYMBOL
3f2 GREEK LUNATE SIGMA SYMBOL
3f3 GREEK LETTER YOT
3f4 GREEK CAPITAL THETA SYMBOL
3f5 GREEK LUNATE EPSILON SYMBOL
3f6 GREEK REVERSED LUNATE EPSILON SYMBOL
3f7 GREEK CAPITAL LETTER SHO
3f8 GREEK SMALL LETTER SHO
3f9 GREEK CAPITAL LUNATE SIGMA SYMBOL
3fa GREEK CAPITAL LETTER SAN
3fb GREEK SMALL LETTER SAN
3fc GREEK RHO WITH STROKE SYMBOL
3fd GREEK CAPITAL REVERSED LUNATE SIGMA SYMBOL
3fe GREEK CAPITAL DOTTED LUNATE SIGMA SYMBOL
3ff GREEK CAPITAL REVERSED DOTTED LUNATE SIGMA SYMBOL
400 CYRILLIC CAPITAL LETTER IE WITH GRAVE
401 CYRILLIC CAPITAL LETTER IO
402 CYRILLIC CAPITAL LETTER DJE
403 CYRILLIC CAPITAL LETTER GJE
404 CYRILLIC CAPITAL LETTER UKRAINIAN IE
405 CYRILLIC CAPITAL LETTER DZE
406 CYRILLIC CAPITAL LETTER BYELORUSSIAN-UKRAINIAN I
407 CYRILLIC CAPITAL LETTER YI
408 CYRILLIC CAPITAL LETTER JE
409 CYRILLIC CAPITAL LETTER LJE
40a CYRILLIC CAPITAL LETTER NJE
40b CYRILLIC CAPITAL LETTER TSHE
40c CYRILLIC CAPITAL LETTER KJE
40d CYRILLIC CAPITAL LETTER I WITH GRAVE
40e CYRILLIC CAPITAL LETTER SHORT U
40f CYRILLIC CAPITAL LETTER DZHE
410 CYRILLIC CAPITAL LETTER A
411 CYRILLIC CAPITAL LETTER BE
412 CYRILLIC CAPITAL LETTER VE
413 CYRILLIC CAPITAL LETTER GHE
414 CYRILLIC CAPITAL LETTER DE
415 CYRILLIC CAPITAL LETTER IE
416 CYRILLIC CAPITAL LETTER ZHE
417 CYRILLIC CAPITAL LETTER ZE
418 CYRILLIC CAPITAL LETTER I
419 CYRILLIC CAPITAL LETTER SHORT I
41a CYRILLIC CAPITAL LETTER KA
41b CYRILLIC CAPITAL LETTER EL
41c CYRILLIC CAPITAL LETTER EM
41d CYRILLIC CAPITAL LETTER EN
41e CYRILLIC CAPITAL LETTER O
41f CYRILLIC CAPITAL LETTER PE
420 CYRILLIC CAPITAL LETTER ER
421 CYRILLIC CAPITAL LETTER ES
422 CYRILLIC CAPITAL LETTER TE
423 CYRILLIC CAPITAL LETTER U
424 CYRILLIC CAPITAL LETTER EF
425 CYRILLIC CAPITAL LETTER HA
426 CYRILLIC CAPITAL LETTER TSE
427 CYRILLIC CAPITAL LETTER CHE
428 CYRILLIC CAPITAL LETTER SHA
429 CYRILLIC CAPITAL LETTER SHCHA
42a CYRILLIC CAPITAL LETTER HARD SIGN
42b CYRILLIC CAPITAL LETTER YERU
42c CYRILLIC CAPITAL LETTER SOFT SIGN
42d CYRILLIC CAPITAL LETTER E
42e CYRILLIC CAPITAL LETTER YU
42f CYRILLIC CAPITAL LETTER YA
430 CYRILLIC SMALL LETTER A
431 CYRILLIC SMALL LETTER BE
432 CYRILLIC SMALL LETTER VE
433 CYRILLIC SMALL LETTER GHE
434 CYRILLIC SMALL LETTER DE
435 CYRILLIC SMALL LETTER IE
436 CYRILLIC SMALL LETTER ZHE
437 CYRILLIC SMALL LETTER ZE
438 CYRILLIC SMALL LETTER I
439 CYRILLIC SMALL LETTER SHORT I
43a CYRILLIC SMALL LETTER KA
43b CYRILLIC SMALL LETTER EL
43c CYRILLIC SMALL LETTER EM
43d CYRILLIC SMALL LETTER EN
43e CYRILLIC SMALL LETTER O
43f CYRILLIC SMALL LETTER PE
440 CYRILLIC SMALL LETTER ER
441 CYRILLIC SMALL LETTER ES
442 CYRILLIC SMALL LETTER TE
443 CYRILLIC SMALL LETTER U
444 CYRILLIC SMALL LETTER EF
445 CYRILLIC SMALL LETTER HA
446 CYRILLIC SMALL LETTER TSE
447 CYRILLIC SMALL LETTER CHE
448 CYRILLIC SMALL LETTER SHA
449 CYRILLIC SMALL LETTER SHCHA
44a CYRILLIC SMALL LETTER HARD SIGN
44b CYRILLIC SMALL LETTER YERU
44c CYRILLIC SMALL LETTER SOFT SIGN
44d CYRILLIC SMALL LETTER E
44e CYRILLIC SMALL LETTER YU
44f CYRILLIC SMALL LETTER YA
450 CYRILLIC SMALL LETTER IE WITH GRAVE
451 CYRILLIC SMALL LETTER IO
452 CYRILLIC SMALL LETTER DJE
453 CYRILLIC SMALL LETTER GJE
454 CYRILLIC SMALL LETTER UKRAINIAN IE
455 CYRILLIC SMALL LETTER DZE
456 CYRILLIC SMALL LETTER BYELORUSSIAN-UKRAINIAN I
457 CYRILLIC SMALL LETTER YI
458 CYRILLIC SMALL LETTER JE
459 CYRILLIC SMALL LETTER LJE
45a CYRILLIC SMALL LETTER NJE
45b CYRILLIC SMALL LETTER TSHE
45c CYRILLIC SMALL LETTER KJE
45d CYRILLIC SMALL LETTER I WITH GRAVE
45e CYRILLIC SMALL LETTER SHORT U
45f CYRILLIC SMALL LETTER DZHE
483 COMBINING CYRILLIC TITLO
484 COMBINING CYRILLIC PALATALIZATION
485 COMBINING CYRILLIC DASIA PNEUMATA
486 COMBINING CYRILLIC PSILI PNEUMATA
487 COMBINING CYRILLIC POKRYTIE
488 COMBINING CYRILLIC HUNDRED THOUSANDS SIGN
489 COMBINING CYRILLIC MILLIONS SIGN
591 HEBREW ACCENT ETNAHTA
592 HEBREW ACCENT SEGOL
593 HEBREW ACCENT SHALSHELET
594 HEBREW ACCENT ZAQEF QATAN
595 HEBREW ACCENT ZAQEF GADOL
596 HEBREW ACCENT TIPEHA
597 HEBREW ACCENT REVIA
598 HEBREW ACCENT ZARQA
599 HEBREW ACCENT PASHTA
59a HEBREW ACCENT YETIV
59b HEBREW ACCENT TEVIR
59c HEBREW ACCENT GERESH
59d HEBREW ACCENT GERESH MUQDAM
59e HEBREW ACCENT GERSHAYIM
59f HEBREW ACCENT QARNEY PARA
5a0 HEBREW ACCENT TELISHA GEDOLA
5a1 HEBREW ACCENT PAZER
5a2 HEBREW ACCENT ATNAH HAFUKH
5a3 HEBREW ACCENT MUNAH
5a4 HEBREW ACCENT MAHAPAKH
5a5 HEBREW ACCENT MERKHA
5a6 HEBREW ACCENT MERKHA KEFULA
5a7 HEBREW ACCENT DARGA
5a8 HEBREW ACCENT QADMA
5a9 HEBREW ACCENT TELISHA QETANA
5aa HEBREW ACCENT YERAH BEN YOMO
5ab HEBREW ACCENT OLE
5ac HEBREW ACCENT ILUY
5ad HEBREW ACCENT DEHI
5ae HEBREW ACCENT ZINOR
5af HEBREW MARK MASORA CIRCLE
5b0 HEBREW POINT SHEVA
5b1 HEBREW POINT HATAF SEGOL
5b2 HEBREW POINT HATAF PATAH
5b3 HEBREW POINT HATAF QAMATS
5b4 HEBREW POINT HIRIQ
5b5 HEBREW POINT TSERE
5b6 HEBREW POINT SEGOL
5b7 HEBREW POINT PATAH
5b8 HEBREW POINT QAMATS
5b9 HEBREW POINT HOLAM
5ba HEBREW POINT HOLAM HASER FOR VAV
5bb HEBREW POINT QUBUTS
5bc HEBREW POINT DAGESH OR MAPIQ
5bd HEBREW POINT METEG
5bf HEBREW POINT RAFE
5c1 HEBREW POINT SHIN DOT
5c2 HEBREW POINT SIN DOT
5c4 HEBREW MARK UPPER DOT
5c5 HEBREW MARK LOWER DOT
5c7 HEBREW POINT QAMATS QATAN
600 ARABIC NUMBER SIGN
601 ARABIC SIGN SANAH
602 ARABIC FOOTNOTE MARKER
603 ARABIC SIGN SAFHA
604 ARABIC SIGN SAMVAT
605 ARABIC NUMBER MARK ABOVE
610 ARABIC SIGN SALLALLAHOU ALAYHE WASSALLAM
611 ARABIC SIGN ALAYHE ASSALLAM
612 ARABIC SIGN RAHMATULLAH ALAYHE
613 ARABIC SIGN RADI ALLAHOU ANHU
614 ARABIC SIGN TAKHALLUS
615 ARABIC SMALL HIGH TAH
616 ARABIC SMALL HIGH LIGATURE ALEF WITH LAM WITH YEH
617 ARABIC SMALL HIGH ZAIN
618 ARABIC SMALL FATHA
619 ARABIC SMALL DAMMA
61a ARABIC SMALL KASRA
61c ARABIC LETTER MARK
64b ARABIC FATHATAN
64c ARABIC DAMMATAN
64d ARABIC KASRATAN
64e ARABIC FATHA
64f ARABIC DAMMA
650 ARABIC KASRA
651 ARABIC SHADDA
652 ARABIC SUKUN
653 ARABIC MADDAH ABOVE
654 ARABIC HAMZA ABOVE
655 ARABIC HAMZA BELOW
656 ARABIC SUBSCRIPT ALEF
657 ARABIC INVERTED DAMMA
658 ARABIC MARK NOON GHUNNA
659 ARABIC ZWARAKAY
65a ARABIC VOWEL SIGN SMALL V ABOVE
65b ARABIC VOWEL SIGN INVERTED SMALL V ABOVE
65c ARABIC VOWEL SIGN DOT BELOW
65d ARABIC REVERSED DAMMA
65e ARABIC FATHA WITH TWO DOTS
65f ARABIC WAVY HAMZA BELOW
670 ARABIC LETTER SUPERSCRIPT ALEF
6d6 ARABIC SMALL HIGH LIGATURE SAD WITH LAM WITH ALEF MAKSURA
6d7 ARABIC SMALL HIGH LIGATURE QAF WITH LAM WITH ALEF MAKSURA
6d8 ARABIC SMALL HIGH MEEM INITIAL FORM
6d9 ARABIC SMALL HIGH LAM ALEF
6da ARABIC SMALL HIGH JEEM
6db ARABIC SMALL HIGH THREE DOTS
6dc ARABIC SMALL HIGH SEEN
6dd ARABIC END OF AYAH
6df ARABIC SMALL HIGH ROUNDED ZERO
6e0 ARABIC SMALL HIGH UPRIGHT RECTANGULAR ZERO
6e1 ARABIC SMALL HIGH DOTLESS HEAD OF KHAH
6e2 ARABIC SMALL HIGH MEEM ISOLATED FORM
6e3 ARABIC SMALL LOW SEEN
6e4 ARABIC SMALL HIGH MADDA
6e7 ARABIC SMALL HIGH YEH
6e8 ARABIC SMALL HIGH NOON
6ea ARABIC EMPTY CENTRE LOW STOP
6eb ARABIC EMPTY CENTRE HIGH STOP
6ec ARABIC ROUNDED HIGH STOP WITH FILLED CENTRE
6ed ARABIC SMALL LOW MEEM
70f SYRIAC ABBREVIATION MARK
711 SYRIAC LETTER SUPERSCRIPT ALAPH
730 SYRIAC PTHAHA ABOVE
731 SYRIAC PTHAHA BELOW
732 SYRIAC PTHAHA DOTTED
733 SYRIAC ZQAPHA ABOVE
734 SYRIAC ZQAPHA BELOW
735 SYRIAC ZQAPHA DOTTED
736 SYRIAC RBASA ABOVE
737 SYRIAC RBASA BELOW
738 SYRIAC DOTTED ZLAMA HORIZONTAL
739 SYRIAC DOTTED ZLAMA ANGULAR
73a SYRIAC HBASA ABOVE
73b SYRIAC HBASA BELOW
73c SYRIAC HBASA-ESASA DOTTED
73d SYRIAC ESASA ABOVE
73e SYRIAC ESASA BELOW
73f SYRIAC RWAHA
740 SYRIAC FEMININE DOT
741 SYRIAC QUSHSHAYA
742 SYRIAC RUKKAKHA
743 SYRIAC TWO VERTICAL DOTS ABOVE
744 SYRIAC TWO VERTICAL DOTS BELOW
745 SYRIAC THREE DOTS ABOVE
746 SYRIAC THREE DOTS BELOW
747 SYRIAC OBLIQUE LINE ABOVE
748 SYRIAC OBLIQUE LINE BELOW
749 SYRIAC MUSIC
74a SYRIAC BARREKH
7a6 THAANA ABAFILI
7a7 THAANA AABAAFILI
7a8 THAANA IBIFILI
7a9 THAANA EEBEEFILI
7aa THAANA UBUFILI
7ab THAANA OOBOOFILI
7ac THAANA EBEFILI
7ad THAANA EYBEYFILI
7ae THAANA OBOFILI
7af THAANA OABOAFILI
7b0 THAANA SUKUN
7eb NKO COMBINING SHORT HIGH TONE
7ec NKO COMBINING SHORT LOW TONE
7ed NKO COMBINING SHORT RISING TONE
7ee NKO COMBINING LONG DESCENDING TONE
7ef NKO COMBINING LONG HIGH TONE
7f0 NKO COMBINING LONG LOW TONE
7f1 NKO COMBINING LONG RISING TONE
7f2 NKO COMBINING NASALIZATION MARK
7f3 NKO COMBINING DOUBLE DOT ABOVE
7fd NKO DANTAYALAN
816 SAMARITAN MARK IN
817 SAMARITAN MARK IN-ALAF
818 SAMARITAN MARK OCCLUSION
819 SAMARITAN MARK DAGESH
81b SAMARITAN MARK EPENTHETIC YUT
81c SAMARITAN VOWEL SIGN LONG E
81d SAMARITAN VOWEL SIGN E
81e SAMARITAN VOWEL SIGN OVERLONG AA
81f SAMARITAN VOWEL SIGN LONG AA
820 SAMARITAN VOWEL SIGN AA
821 SAMARITAN VOWEL SIGN OVERLONG A
822 SAMARITAN VOWEL SIGN LONG A
823 SAMARITAN VOWEL SIGN A
825 SAMARITAN VOWEL SIGN SHORT A
826 SAMARITAN VOWEL SIGN LONG U
827 SAMARITAN VOWEL SIGN U
829 SAMARITAN VOWEL SIGN LONG I
82a SAMARITAN VOWEL SIGN I
82b SAMARITAN VOWEL SIGN O
82c SAMARITAN VOWEL SIGN SUKUN
82d SAMARITAN MARK NEQUDAA
859 MANDAIC AFFRICATION MARK
85a MANDAIC VOCALIZATION MARK
85b MANDAIC GEMINATION MARK
890 ARABIC POUND MARK ABOVE
891 ARABIC PIASTRE MARK ABOVE
898 ARABIC SMALL HIGH WORD AL-JUZ
899 ARABIC SMALL LOW WORD ISHMAAM
89a ARABIC SMALL LOW WORD IMAALA
89b ARABIC SMALL LOW WORD TASHEEL
89c ARABIC MADDA WAAJIB
89d ARABIC SUPERSCRIPT ALEF MOKHASSAS
89e ARABIC DOUBLED MADDA
89f ARABIC HALF MADDA OVER MADDA
8ca ARABIC SMALL HIGH FARSI YEH
8cb ARABIC SMALL HIGH YEH BARREE WITH TWO DOTS BELOW
8cc ARABIC SMALL HIGH WORD SAH
8cd ARABIC SMALL HIGH ZAH
8ce ARABIC LARGE ROUND DOT ABOVE
8cf ARABIC LARGE ROUND DOT BELOW
8d0 ARABIC SUKUN BELOW
8d1 ARABIC LARGE CIRCLE BELOW
8d2 ARABIC LARGE ROUND DOT INSIDE CIRCLE BELOW
8d3 ARABIC SMALL LOW WAW
8d4 ARABIC SMALL HIGH WORD AR-RUB
8d5 ARABIC SMALL HIGH SAD
8d6 ARABIC SMALL HIGH AIN
8d7 ARABIC SMALL HIGH QAF
8d8 ARABIC SMALL HIGH NOON WITH KASRA
8d9 ARABIC SMALL LOW NOON WITH KASRA
8da ARABIC SMALL HIGH WORD ATH-THALATHA
8db ARABIC SMALL HIGH WORD AS-SAJDA
8dc ARABIC SMALL HIGH WORD AN-NISF
8dd ARABIC SMALL HIGH WORD SAKTA
8de ARABIC SMALL HIGH WORD QIF
8df ARABIC SMALL HIGH WORD WAQFA
8e0 ARABIC SMALL HIGH FOOTNOTE MARKER
8e1 ARABIC SMALL HIGH SIGN SAFHA
8e2 ARABIC DISPUTED END OF AYAH
8e3 ARABIC TURNED DAMMA BELOW
8e4 ARABIC CURLY FATHA
8e5 ARABIC CURLY DAMMA
8e6 ARABIC CURLY KASRA
8e7 ARABIC CURLY FATHATAN
8e8 ARABIC CURLY DAMMATAN
8e9 ARABIC CURLY KASRATAN
8ea ARABIC TONE ONE DOT ABOVE
8eb ARABIC TONE TWO DOTS ABOVE
8ec ARABIC TONE LOOP ABOVE
8ed ARABIC TONE ONE DOT BELOW
8ee ARABIC TONE TWO DOTS BELOW
8ef ARABIC TONE LOOP BELOW
8f0 ARABIC OPEN FATHATAN
8f1 ARABIC OPEN DAMMATAN
8f2 ARABIC OPEN KASRATAN
8f3 ARABIC SMALL HIGH WAW
8f4 ARABIC FATHA WITH RING
8f5 ARABIC FATHA WITH DOT ABOVE
8f6 ARABIC KASRA WITH DOT BELOW
8f7 ARABIC LEFT ARROWHEAD ABOVE
8f8 ARABIC RIGHT ARROWHEAD ABOVE
8f9 ARABIC LEFT ARROWHEAD BELOW
8fa ARABIC RIGHT ARROWHEAD BELOW
8fb ARABIC DOUBLE RIGHT ARROWHEAD ABOVE
8fc ARABIC DOUBLE RIGHT ARROWHEAD ABOVE WITH DOT
8fd ARABIC RIGHT ARROWHEAD ABOVE WITH DOT
8fe ARABIC DAMMA WITH DOT
8ff ARABIC MARK SIDEWAYS NOON GHUNNA
900 DEVANAGARI SIGN INVERTED CANDRABINDU
901 DEVANAGARI SIGN CANDRABINDU
902 DEVANAGARI SIGN ANUSVARA
903 DEVANAGARI SIGN VISARGA
93a DEVANAGARI VOWEL SIGN OE
93b DEVANAGARI VOWEL SIGN OOE
93c DEVANAGARI SIGN NUKTA
93e DEVANAGARI VOWEL SIGN AA
93f DEVANAGARI VOWEL SIGN I
940 DEVANAGARI VOWEL SIGN II
941 DEVANAGARI VOWEL SIGN U
942 DEVANAGARI VOWEL SIGN UU
943 DEVANAGARI VOWEL SIGN VOCALIC R
944 DEVANAGARI VOWEL SIGN VOCALIC RR
945 DEVANAGARI VOWEL SIGN CANDRA E
946 DEVANAGARI VOWEL SIGN SHORT E
947 DEVANAGARI VOWEL SIGN E
948 DEVANAGARI VOWEL SIGN AI
949 DEVANAGARI VOWEL SIGN CANDRA O
94a DEVANAGARI VOWEL SIGN SHORT O
94b DEVANAGARI VOWEL SIGN O
94c DEVANAGARI VOWEL SIGN AU
94d DEVANAGARI SIGN VIRAMA
94e DEVANAGARI VOWEL SIGN PRISHTHAMATRA E
94f DEVANAGARI VOWEL SIGN AW
951 DEVANAGARI STRESS SIGN UDATTA
952 DEVANAGARI STRESS SIGN ANUDATTA
953 DEVANAGARI GRAVE ACCENT
954 DEVANAGARI ACUTE ACCENT
955 DEVANAGARI VOWEL SIGN CANDRA LONG E
956 DEVANAGARI VOWEL SIGN UE
957 DEVANAGARI VOWEL SIGN UUE
962 DEVANAGARI VOWEL SIGN VOCALIC L
963 DEVANAGARI VOWEL SIGN VOCALIC LL
981 BENGALI SIGN CANDRABINDU
982 BENGALI SIGN ANUSVARA
983 BENGALI SIGN VISARGA
9bc BENGALI SIGN NUKTA
9be BENGALI VOWEL SIGN AA
9bf BENGALI VOWEL SIGN I
9c0 BENGALI VOWEL SIGN II
9c1 BENGALI VOWEL SIGN U
9c2 BENGALI VOWEL SIGN UU
9c3 BENGALI VOWEL SIGN VOCALIC R
9c4 BENGALI VOWEL SIGN VOCALIC RR
9c7 BENGALI VOWEL SIGN E
9c8 BENGALI VOWEL SIGN AI
9cb BENGALI VOWEL SIGN O
9cc BENGALI VOWEL SIGN AU
9cd BENGALI SIGN VIRAMA
9d7 BENGALI AU LENGTH MARK
9e2 BENGALI VOWEL SIGN VOCALIC L
9e3 BENGALI VOWEL SIGN VOCALIC LL
9fe BENGALI SANDHI MARK
a01 GURMUKHI SIGN ADAK BINDI
a02 GURMUKHI SIGN BINDI
a03 GURMUKHI SIGN VISARGA
a3c GURMUKHI SIGN NUKTA
a3e GURMUKHI VOWEL SIGN AA
a3f GURMUKHI VOWEL SIGN I
a40 GURMUKHI VOWEL SIGN II
a41 GURMUKHI VOWEL SIGN U
a42 GURMUKHI VOWEL SIGN UU
a47 GURMUKHI VOWEL SIGN EE
a48 GURMUKHI VOWEL SIGN AI
a4b GURMUKHI VOWEL SIGN OO
a4c GURMUKHI VOWEL SIGN AU
a4d GURMUKHI SIGN VIRAMA
a51 GURMUKHI SIGN UDAAT
a70 GURMUKHI TIPPI
a71 GURMUKHI ADDAK
a75 GURMUKHI SIGN YAKASH
a81 GUJARATI SIGN CANDRABINDU
a82 GUJARATI SIGN ANUSVARA
a83 GUJARATI SIGN VISARGA
abc GUJARATI SIGN NUKTA
abe GUJARATI VOWEL SIGN AA
abf GUJARATI VOWEL SIGN I
ac0 GUJARATI VOWEL SIGN II
ac1 GUJARATI VOWEL SIGN U
ac2 GUJARATI VOWEL SIGN UU
ac3 GUJARATI VOWEL SIGN VOCALIC R
ac4 GUJARATI VOWEL SIGN VOCALIC RR
ac5 GUJARATI VOWEL SIGN CANDRA E
ac7 GUJARATI VOWEL SIGN E
ac8 GUJARATI VOWEL SIGN AI
ac9 GUJARATI VOWEL SIGN CANDRA O
acb GUJARATI VOWEL SIGN O
acc GUJARATI VOWEL SIGN AU
acd GUJARATI SIGN VIRAMA
ae2 GUJARATI VOWEL SIGN VOCALIC L
ae3 GUJARATI VOWEL SIGN VOCALIC LL
afa GUJARATI SIGN SUKUN
afb GUJARATI SIGN SHADDA
afc GUJARATI SIGN MADDAH
afd GUJARATI SIGN THREE-DOT NUKTA ABOVE
afe GUJARATI SIGN CIRCLE NUKTA ABOVE
aff GUJARATI SIGN TWO-CIRCLE NUKTA ABOVE
b01 ORIYA SIGN CANDRABINDU
b02 ORIYA SIGN ANUSVARA
b03 ORIYA SIGN VISARGA
b3c ORIYA SIGN NUKTA
b3e ORIYA VOWEL SIGN AA
b3f ORIYA VOWEL SIGN I
b40 ORIYA VOWEL SIGN II
b41 ORIYA VOWEL SIGN U
b42 ORIYA VOWEL SIGN UU
b43 ORIYA VOWEL SIGN VOCALIC R
b44 ORIYA VOWEL SIGN VOCALIC RR
b47 ORIYA VOWEL SIGN E
b48 ORIYA VOWEL SIGN AI
b4b ORIYA VOWEL SIGN O
b4c ORIYA VOWEL SIGN AU
b4d ORIYA SIGN VIRAMA
b55 ORIYA SIGN OVERLINE
b56 ORIYA AI LENGTH MARK
b57 ORIYA AU LENGTH MARK
b62 ORIYA VOWEL SIGN VOCALIC L
b63 ORIYA VOWEL SIGN VOCALIC LL
b82 TAMIL SIGN ANUSVARA
bbe TAMIL VOWEL SIGN AA
bbf TAMIL VOWEL SIGN I
bc0 TAMIL VOWEL SIGN II
bc1 TAMIL VOWEL SIGN U
bc2 TAMIL VOWEL SIGN UU
bc6 TAMIL VOWEL SIGN E
bc7 TAMIL VOWEL SIGN EE
bc8 TAMIL VOWEL SIGN AI
bca TAMIL VOWEL SIGN O
bcb TAMIL VOWEL SIGN OO
bcc TAMIL VOWEL SIGN AU
bcd TAMIL SIGN VIRAMA
bd7 TAMIL AU LENGTH MARK
c00 TELUGU SIGN COMBINING CANDRABINDU ABOVE
c01 TELUGU SIGN CANDRABINDU
c02 TELUGU SIGN ANUSVARA
c03 TELUGU SIGN VISARGA
c04 TELUGU SIGN COMBINING ANUSVARA ABOVE
c3c TELUGU SIGN NUKTA
c3e TELUGU VOWEL SIGN AA
c3f TELUGU VOWEL SIGN I
c40 TELUGU VOWEL SIGN II
c41 TELUGU VOWEL SIGN U
c42 TELUGU VOWEL SIGN UU
c43 TELUGU VOWEL SIGN VOCALIC R
c44 TELUGU VOWEL SIGN VOCALIC RR
c46 TELUGU VOWEL SIGN E
c47 TELUGU VOWEL SIGN EE
c48 TELUGU VOWEL SIGN AI
c4a TELUGU VOWEL SIGN O
c4b TELUGU VOWEL SIGN OO
c4c TELUGU VOWEL SIGN AU
c4d TELUGU SIGN VIRAMA
c55 TELUGU LENGTH MARK
c56 TELUGU AI LENGTH MARK
c62 TELUGU VOWEL SIGN VOCALIC L
c63 TELUGU VOWEL SIGN VOCALIC LL
c81 KANNADA SIGN CANDRABINDU
c82 KANNADA SIGN ANUSVARA
c83 KANNADA SIGN VISARGA
cbc KANNADA SIGN NUKTA
cbe KANNADA VOWEL SIGN AA
cbf KANNADA VOWEL SIGN I
cc0 KANNADA VOWEL SIGN II
cc1 KANNADA VOWEL SIGN U
cc2 KANNADA VOWEL SIGN UU
cc3 KANNADA VOWEL SIGN VOCALIC R
cc4 KANNADA VOWEL SIGN VOCALIC RR
cc6 KANNADA VOWEL SIGN E
cc7 KANNADA VOWEL SIGN EE
cc8 KANNADA VOWEL SIGN AI
cca KANNADA VOWEL SIGN O
ccb KANNADA VOWEL SIGN OO
ccc KANNADA VOWEL SIGN AU
ccd KANNADA SIGN VIRAMA
cd5 KANNADA LENGTH MARK
cd6 KANNADA AI LENGTH MARK
ce2 KANNADA VOWEL SIGN VOCALIC L
ce3 KANNADA VOWEL SIGN VOCALIC LL
d00 MALAYALAM SIGN COMBINING ANUSVARA ABOVE
d01 MALAYALAM SIGN CANDRABINDU
d02 MALAYALAM SIGN ANUSVARA
d03 MALAYALAM SIGN VISARGA
d3b MALAYALAM SIGN VERTICAL BAR VIRAMA
d3c MALAYALAM SIGN CIRCULAR VIRAMA
d3e MALAYALAM VOWEL SIGN AA
d3f MALAYALAM VOWEL SIGN I
d40 MALAYALAM VOWEL SIGN II
d41 MALAYALAM VOWEL SIGN U
d42 MALAYALAM VOWEL SIGN UU
d43 MALAYALAM VOWEL SIGN VOCALIC R
d44 MALAYALAM VOWEL SIGN VOCALIC RR
d46 MALAYALAM VOWEL SIGN E
d47 MALAYALAM VOWEL SIGN EE
d48 MALAYALAM VOWEL SIGN AI
d4a MALAYALAM VOWEL SIGN O
d4b MALAYALAM VOWEL SIGN OO
d4c MALAYALAM VOWEL SIGN AU
d4d MALAYALAM SIGN VIRAMA
d57 MALAYALAM AU LENGTH MARK
d62 MALAYALAM VOWEL SIGN VOCALIC L
d63 MALAYALAM VOWEL SIGN VOCALIC LL
d81 SINHALA SIGN CANDRABINDU
d82 SINHALA SIGN ANUSVARAYA
d83 SINHALA SIGN VISARGAYA
dca SINHALA SIGN AL-LAKUNA
dcf SINHALA VOWEL SIGN AELA-PILLA
dd0 SINHALA VOWEL SIGN KETTI AEDA-PILLA
dd1 SINHALA VOWEL SIGN DIGA AEDA-PILLA
dd2 SINHALA VOWEL SIGN KETTI IS-PILLA
dd3 SINHALA VOWEL SIGN DIGA IS-PILLA
dd4 SINHALA VOWEL SIGN KETTI PAA-PILLA
dd6 SINHALA VOWEL SIGN DIGA PAA-PILLA
dd8 SINHALA VOWEL SIGN GAETTA-PILLA
dd9 SINHALA VOWEL SIGN KOMBUVA
dda SINHALA VOWEL SIGN DIGA KOMBUVA
ddb SINHALA VOWEL SIGN KOMBU DEKA
ddc SINHALA VOWEL SIGN KOMBUVA HAA AELA-PILLA
ddd SINHALA VOWEL SIGN KOMBUVA HAA DIGA AELA-PILLA
dde SINHALA VOWEL SIGN KOMBUVA HAA GAYANUKITTA
ddf SINHALA VOWEL SIGN GAYANUKITTA
df2 SINHALA VOWEL SIGN DIGA GAETTA-PILLA
df3 SINHALA VOWEL SIGN DIGA GAYANUKITTA
e31 THAI CHARACTER MAI HAN-AKAT
e34 THAI CHARACTER SARA I
e35 THAI CHARACTER SARA II
e36 THAI CHARACTER SARA UE
e37 THAI CHARACTER SARA UEE
e38 THAI CHARACTER SARA U
e39 THAI CHARACTER SARA UU
e3a THAI CHARACTER PHINTHU
e47 THAI CHARACTER MAITAIKHU
e48 THAI CHARACTER MAI EK
e49 THAI CHARACTER MAI THO
e4a THAI CHARACTER MAI TRI
e4b THAI CHARACTER MAI CHATTAWA
e4c THAI CHARACTER THANTHAKHAT
e4d THAI CHARACTER NIKHAHIT
e4e THAI CHARACTER YAMAKKAN
eb1 LAO VOWEL SIGN MAI KAN
eb4 LAO VOWEL SIGN I
eb5 LAO VOWEL SIGN II
eb6 LAO VOWEL SIGN Y
eb7 LAO VOWEL SIGN YY
eb8 LAO VOWEL SIGN U
eb9 LAO VOWEL SIGN UU
eba LAO SIGN PALI VIRAMA
ebb LAO VOWEL SIGN MAI KON
ebc LAO SEMIVOWEL SIGN LO
ec8 LAO TONE MAI EK
ec9 LAO TONE MAI THO
eca LAO TONE MAI TI
ecb LAO TONE MAI CATAWA
ecc LAO CANCELLATION MARK
ecd LAO NIGGAHITA
f18 TIBETAN ASTROLOGICAL SIGN -KHYUD PA
f19 TIBETAN ASTROLOGICAL SIGN SDONG TSHUGS
f35 TIBETAN MARK NGAS BZUNG NYI ZLA
f37 TIBETAN MARK NGAS BZUNG SGOR RTAGS
f39 TIBETAN MARK TSA -PHRU
f3e TIBETAN SIGN YAR TSHES
f3f TIBETAN SIGN MAR TSHES
f71 TIBETAN VOWEL SIGN AA
f72 TIBETAN VOWEL SIGN I
f73 TIBETAN VOWEL SIGN II
f74 TIBETAN VOWEL SIGN U
f75 TIBETAN VOWEL SIGN UU
f76 TIBETAN VOWEL SIGN VOCALIC R
f77 TIBETAN VOWEL SIGN VOCALIC RR
f78 TIBETAN VOWEL SIGN VOCALIC L
f79 TIBETAN VOWEL SIGN VOCALIC LL
f7a TIBETAN VOWEL SIGN E
f7b TIBETAN VOWEL SIGN EE
f7c TIBETAN VOWEL SIGN O
f7d TIBETAN VOWEL SIGN OO
f7e TIBETAN SIGN RJES SU NGA RO
f7f TIBETAN SIGN RNAM BCAD
f80 TIBETAN VOWEL SIGN REVERSED I
f81 TIBETAN VOWEL SIGN REVERSED II
f82 TIBETAN SIGN NYI ZLA NAA DA
f83 TIBETAN SIGN SNA LDAN
f84 TIBETAN MARK HALANTA
f86 TIBETAN SIGN LCI RTAGS
f87 TIBETAN SIGN YANG RTAGS
f8d TIBETAN SUBJOINED SIGN LCE TSA CAN
f8e TIBETAN SUBJOINED SIGN MCHU CAN
f8f TIBETAN SUBJOINED SIGN INVERTED MCHU CAN
f90 TIBETAN SUBJOINED LETTER KA
f91 TIBETAN SUBJOINED LETTER KHA
f92 TIBETAN SUBJOINED LETTER GA
f93 TIBETAN SUBJOINED LETTER GHA
f94 TIBETAN SUBJOINED LETTER NGA
f95 TIBETAN SUBJOINED LETTER CA
f96 TIBETAN SUBJOINED LETTER CHA
f97 TIBETAN SUBJOINED LETTER JA
f99 TIBETAN SUBJOINED LETTER NYA
f9a TIBETAN SUBJOINED LETTER TTA
f9b TIBETAN SUBJOINED LETTER TTHA
f9c TIBETAN SUBJOINED LETTER DDA
f9d TIBETAN SUBJOINED LETTER DDHA
f9e TIBETAN SUBJOINED LETTER NNA
f9f TIBETAN SUBJOINED LETTER TA
fa0 TIBETAN SUBJOINED LETTER THA
fa1 TIBETAN SUBJOINED LETTER DA
fa2 TIBETAN SUBJOINED LETTER DHA
fa3 TIBETAN SUBJOINED LETTER NA
fa4 TIBETAN SUBJOINED LETTER PA
fa5 TIBETAN SUBJOINED LETTER PHA
fa6 TIBETAN SUBJOINED LETTER BA
fa7 TIBETAN SUBJOINED LETTER BHA
fa8 TIBETAN SUBJOINED LETTER MA
fa9 TIBETAN SUBJOINED LETTER TSA
faa TIBETAN SUBJOINED LETTER TSHA
fab TIBETAN SUBJOINED LETTER DZA
fac TIBETAN SUBJOINED LETTER DZHA
fad TIBETAN SUBJOINED LETTER WA
fae TIBETAN SUBJOINED LETTER ZHA
faf TIBETAN SUBJOINED LETTER ZA
fb0 TIBETAN SUBJOINED LETTER -A
fb1 TIBETAN SUBJOINED LETTER YA
fb2 TIBETAN SUBJOINED LETTER RA
fb3 TIBETAN SUBJOINED LETTER LA
fb4 TIBETAN SUBJOINED LETTER SHA
fb5 TIBETAN SUBJOINED LETTER SSA
fb6 TIBETAN SUBJOINED LETTER SA
fb7 TIBETAN SUBJOINED LETTER HA
fb8 TIBETAN SUBJOINED LETTER A
fb9 TIBETAN SUBJOINED LETTER KSSA
fba TIBETAN SUBJOINED LETTER FIXED-FORM WA
fbb TIBETAN SUBJOINED LETTER FIXED-FORM YA
fbc TIBETAN SUBJOINED LETTER FIXED-FORM RA
fc6 TIBETAN SYMBOL PADMA GDAN
102b MYANMAR VOWEL SIGN TALL AA
102c MYANMAR VOWEL SIGN AA
102d MYANMAR VOWEL SIGN I
102e MYANMAR VOWEL SIGN II
102f MYANMAR VOWEL SIGN U
1030 MYANMAR VOWEL SIGN UU
1031 MYANMAR VOWEL SIGN E
1032 MYANMAR VOWEL SIGN AI
1033 MYANMAR VOWEL SIGN MON II
1034 MYANMAR VOWEL SIGN MON O
1035 MYANMAR VOWEL SIGN E ABOVE
1036 MYANMAR SIGN ANUSVARA
1037 MYANMAR SIGN DOT BELOW
1038 MYANMAR SIGN VISARGA
1039 MYANMAR SIGN VIRAMA
103a MYANMAR SIGN ASAT
103b MYANMAR CONSONANT SIGN MEDIAL YA
103c MYANMAR CONSONANT SIGN MEDIAL RA
103d MYANMAR CONSONANT SIGN MEDIAL WA
103e MYANMAR CONSONANT SIGN MEDIAL HA
1056 MYANMAR VOWEL SIGN VOCALIC R
1057 MYANMAR VOWEL SIGN VOCALIC RR
1058 MYANMAR VOWEL SIGN VOCALIC L
1059 MYANMAR VOWEL SIGN VOCALIC LL
105e MYANMAR CONSONANT SIGN MON MEDIAL NA
105f MYANMAR CONSONANT SIGN MON MEDIAL MA
1060 MYANMAR CONSONANT SIGN MON MEDIAL LA
1062 MYANMAR VOWEL SIGN SGAW KAREN EU
1063 MYANMAR TONE MARK SGAW KAREN HATHI
1064 MYANMAR TONE MARK SGAW KAREN KE PHO
1067 MYANMAR VOWEL SIGN WESTERN PWO KAREN EU
1068 MYANMAR VOWEL SIGN WESTERN PWO KAREN UE
1069 MYANMAR SIGN WESTERN PWO KAREN TONE-1
106a MYANMAR SIGN WESTERN PWO KAREN TONE-2
106b MYANMAR SIGN WESTERN PWO KAREN TONE-3
106c MYANMAR SIGN WESTERN PWO KAREN TONE-4
106d MYANMAR SIGN WESTERN PWO KAREN TONE-5
1071 MYANMAR VOWEL SIGN GEBA KAREN I
1072 MYANMAR VOWEL SIGN KAYAH OE
1073 MYANMAR VOWEL SIGN KAYAH U
1074 MYANMAR VOWEL SIGN KAYAH EE
1082 MYANMAR CONSONANT SIGN SHAN MEDIAL WA
1083 MYANMAR VOWEL SIGN SHAN AA
1084 MYANMAR VOWEL SIGN SHAN E
1085 MYANMAR VOWEL SIGN SHAN E ABOVE
1086 MYANMAR VOWEL SIGN SHAN FINAL Y
1087 MYANMAR SIGN SHAN TONE-2
1088 MYANMAR SIGN SHAN TONE-3
1089 MYANMAR SIGN SHAN TONE-5
108a MYANMAR SIGN SHAN TONE-6
108b MYANMAR SIGN SHAN COUNCIL TONE-2
108c MYANMAR SIGN SHAN COUNCIL TONE-3
108d MYANMAR SIGN SHAN COUNCIL EMPHATIC TONE
108f MYANMAR SIGN RUMAI PALAUNG TONE-5
109a MYANMAR SIGN KHAMTI TONE-1
109b MYANMAR SIGN KHAMTI TONE-3
109c MYANMAR VOWEL SIGN AITON A
109d MYANMAR VOWEL SIGN AITON AI
135d ETHIOPIC COMBINING GEMINATION AND VOWEL LENGTH MARK
135e ETHIOPIC COMBINING VOWEL LENGTH MARK
135f ETHIOPIC COMBINING GEMINATION MARK
1680 OGHAM SPACE MARK
1712 TAGALOG VOWEL SIGN I
1713 TAGALOG VOWEL SIGN U
1714 TAGALOG SIGN VIRAMA
1715 TAGALOG SIGN PAMUDPOD
1732 HANUNOO VOWEL SIGN I
1733 HANUNOO VOWEL SIGN U
1734 HANUNOO SIGN PAMUDPOD
1752 BUHID VOWEL SIGN I
1753 BUHID VOWEL SIGN U
1772 TAGBANWA VOWEL SIGN I
1773 TAGBANWA VOWEL SIGN U
17b4 KHMER VOWEL INHERENT AQ
17b5 KHMER VOWEL INHERENT AA
17b6 KHMER VOWEL SIGN AA
17b7 KHMER VOWEL SIGN I
17b8 KHMER VOWEL SIGN II
17b9 KHMER VOWEL SIGN Y
17ba KHMER VOWEL SIGN YY
17bb KHMER VOWEL SIGN U
17bc KHMER VOWEL SIGN UU
17bd KHMER VOWEL SIGN UA
17be KHMER VOWEL SIGN OE
17bf KHMER VOWEL SIGN YA
17c0 KHMER VOWEL SIGN IE
17c1 KHMER VOWEL SIGN E
17c2 KHMER VOWEL SIGN AE
17c3 KHMER VOWEL SIGN AI
17c4 KHMER VOWEL SIGN OO
17c5 KHMER VOWEL SIGN AU
17c6 KHMER SIGN NIKAHIT
17c7 KHMER SIGN REAHMUK
17c8 KHMER SIGN YUUKALEAPINTU
17c9 KHMER SIGN MUUSIKATOAN
17ca KHMER SIGN TRIISAP
17cb KHMER SIGN BANTOC
17cc KHMER SIGN ROBAT
17cd KHMER SIGN TOANDAKHIAT
17ce KHMER SIGN KAKABAT
17cf KHMER SIGN AHSDA
17d0 KHMER SIGN SAMYOK SANNYA
17d1 KHMER SIGN VIRIAM
17d2 KHMER SIGN COENG
17d3 KHMER SIGN BATHAMASAT
17dd KHMER SIGN ATTHACAN
180b MONGOLIAN FREE VARIATION SELECTOR ONE
180c MONGOLIAN FREE VARIATION SELECTOR TWO
180d MONGOLIAN FREE VARIATION SELECTOR THREE
180e MONGOLIAN VOWEL SEPARATOR
180f MONGOLIAN FREE VARIATION SELECTOR FOUR
1885 MONGOLIAN LETTER ALI GALI BALUDA
1886 MONGOLIAN LETTER ALI GALI THREE BALUDA
18a9 MONGOLIAN LETTER ALI GALI DAGALGA
1920 LIMBU VOWEL SIGN A
1921 LIMBU VOWEL SIGN I
1922 LIMBU VOWEL SIGN U
1923 LIMBU VOWEL SIGN EE
1924 LIMBU VOWEL SIGN AI
1925 LIMBU VOWEL SIGN OO
1926 LIMBU VOWEL SIGN AU
1927 LIMBU VOWEL SIGN E
1928 LIMBU VOWEL SIGN O
1929 LIMBU SUBJOINED LETTER YA
192a LIMBU SUBJOINED LETTER RA
192b LIMBU SUBJOINED LETTER WA
1930 LIMBU SMALL LETTER KA
1931 LIMBU SMALL LETTER NGA
1932 LIMBU SMALL LETTER ANUSVARA
1933 LIMBU SMALL LETTER TA
1934 LIMBU SMALL LETTER NA
1935 LIMBU SMALL LETTER PA
1936 LIMBU SMALL LETTER MA
1937 LIMBU SMALL LETTER RA
1938 LIMBU SMALL LETTER LA
1939 LIMBU SIGN MUKPHRENG
193a LIMBU SIGN KEMPHRENG
193b LIMBU SIGN SA-I
1a17 BUGINESE VOWEL SIGN I
1a18 BUGINESE VOWEL SIGN U
1a19 BUGINESE VOWEL SIGN E
1a1a BUGINESE VOWEL SIGN O
1a1b BUGINESE VOWEL SIGN AE
1a55 TAI THAM CONSONANT SIGN MEDIAL RA
1a56 TAI THAM CONSONANT SIGN MEDIAL LA
1a57 TAI THAM CONSONANT SIGN LA TANG LAI
1a58 TAI THAM SIGN MAI KANG LAI
1a59 TAI THAM CONSONANT SIGN FINAL NGA
1a5a TAI THAM CONSONANT SIGN LOW PA
1a5b TAI THAM CONSONANT SIGN HIGH RATHA OR LOW PA
1a5c TAI THAM CONSONANT SIGN MA
1a5d TAI THAM CONSONANT SIGN BA
1a5e TAI THAM CONSONANT SIGN SA
1a60 TAI THAM SIGN SAKOT
1a61 TAI THAM VOWEL SIGN A
1a62 TAI THAM VOWEL SIGN MAI SAT
1a63 TAI THAM VOWEL SIGN AA
1a64 TAI THAM VOWEL SIGN TALL AA
1a65 TAI THAM VOWEL SIGN I
1a66 TAI THAM VOWEL SIGN II
1a67 TAI THAM VOWEL SIGN UE
1a68 TAI THAM VOWEL SIGN UUE
1a69 TAI THAM VOWEL SIGN U
1a6a TAI THAM VOWEL SIGN UU
1a6b TAI THAM VOWEL SIGN O
1a6c TAI THAM VOWEL SIGN OA BELOW
1a6d TAI THAM VOWEL SIGN OY
1a6e TAI THAM VOWEL SIGN E
1a6f TAI THAM VOWEL SIGN AE
1a70 TAI THAM VOWEL SIGN OO
1a71 TAI THAM VOWEL SIGN AI
1a72 TAI THAM VOWEL SIGN THAM AI
1a73 TAI THAM VOWEL SIGN OA ABOVE
1a74 TAI THAM SIGN MAI KANG
1a75 TAI THAM SIGN TONE-1
1a76 TAI THAM SIGN TONE-2
1a77 TAI THAM SIGN KHUEN TONE-3
1a78 TAI THAM SIGN KHUEN TONE-4
1a79 TAI THAM SIGN KHUEN TONE-5
1a7a TAI THAM SIGN RA HAAM
1a7b TAI THAM SIGN MAI SAM
1a7c TAI THAM SIGN KHUEN-LUE KARAN
1a7f TAI THAM COMBINING CRYPTOGRAMMIC DOT
1ab0 COMBINING DOUBLED CIRCUMFLEX ACCENT
1ab1 COMBINING DIAERESIS-RING
1ab2 COMBINING INFINITY
1ab3 COMBINING DOWNWARDS ARROW
1ab4 COMBINING TRIPLE DOT
1ab5 COMBINING X-X BELOW
1ab6 COMBINING WIGGLY LINE BELOW
1ab7 COMBINING OPEN MARK BELOW
1ab8 COMBINING DOUBLE OPEN MARK BELOW
1ab9 COMBINING LIGHT CENTRALIZATION STROKE BELOW
1aba COMBINING STRONG CENTRALIZATION STROKE BELOW
1abb COMBINING PARENTHESES ABOVE
1abc COMBINING DOUBLE PARENTHESES ABOVE
1abd COMBINING PARENTHESES BELOW
1abe COMBINING PARENTHESES OVERLAY
1abf COMBINING LATIN SMALL LETTER W BELOW
1ac0 COMBINING LATIN SMALL LETTER TURNED W BELOW
1ac1 COMBINING LEFT PARENTHESIS ABOVE LEFT
1ac2 COMBINING RIGHT PARENTHESIS ABOVE RIGHT
1ac3 COMBINING LEFT PARENTHESIS BELOW LEFT
1ac4 COMBINING RIGHT PARENTHESIS BELOW RIGHT
1ac5 COMBINING SQUARE BRACKETS ABOVE
1ac6 COMBINING NUMBER SIGN ABOVE
1ac7 COMBINING INVERTED DOUBLE ARCH ABOVE
1ac8 COMBINING PLUS SIGN ABOVE
1ac9 COMBINING DOUBLE PLUS SIGN ABOVE
1aca COMBINING DOUBLE PLUS SIGN BELOW
1acb COMBINING TRIPLE ACUTE ACCENT
1acc COMBINING LATIN SMALL LETTER INSULAR G
1acd COMBINING LATIN SMALL LETTER INSULAR R
1ace COMBINING LATIN SMALL LETTER INSULAR T
1b00 BALINESE SIGN ULU RICEM
1b01 BALINESE SIGN ULU CANDRA
1b02 BALINESE SIGN CECEK
1b03 BALINESE SIGN SURANG
1b04 BALINESE SIGN BISAH
1b34 BALINESE SIGN REREKAN
1b35 BALINESE VOWEL SIGN TEDUNG
1b36 BALINESE VOWEL SIGN ULU
1b37 BALINESE VOWEL SIGN ULU SARI
1b38 BALINESE VOWEL SIGN SUKU
1b39 BALINESE VOWEL SIGN SUKU ILUT
1b3a BALINESE VOWEL SIGN RA REPA
1b3b BALINESE VOWEL SIGN RA REPA TEDUNG
1b3c BALINESE VOWEL SIGN LA LENGA
1b3d BALINESE VOWEL SIGN LA LENGA TEDUNG
1b3e BALINESE VOWEL SIGN TALING
1b3f BALINESE VOWEL SIGN TALING REPA
1b40 BALINESE VOWEL SIGN TALING TEDUNG
1b41 BALINESE VOWEL SIGN TALING REPA TEDUNG
1b42 BALINESE VOWEL SIGN PEPET
1b43 BALINESE VOWEL SIGN PEPET TEDUNG
1b44 BALINESE ADEG ADEG
1b6b BALINESE MUSICAL SYMBOL COMBINING TEGEH
1b6c BALINESE MUSICAL SYMBOL COMBINING ENDEP
1b6d BALINESE MUSICAL SYMBOL COMBINING KEMPUL
1b6e BALINESE MUSICAL SYMBOL COMBINING KEMPLI
1b6f BALINESE MUSICAL SYMBOL COMBINING JEGOGAN
1b70 BALINESE MUSICAL SYMBOL COMBINING KEMPUL WITH JEGOGAN
1b71 BALINESE MUSICAL SYMBOL COMBINING KEMPLI WITH JEGOGAN
1b72 BALINESE MUSICAL SYMBOL COMBINING BENDE
1b73 BALINESE MUSICAL SYMBOL COMBINING GONG
1b80 SUNDANESE SIGN PANYECEK
1b81 SUNDANESE SIGN PANGLAYAR
1b82 SUNDANESE SIGN PANGWISAD
1ba1 SUNDANESE CONSONANT SIGN PAMINGKAL
1ba2 SUNDANESE CONSONANT SIGN PANYAKRA
1ba3 SUNDANESE CONSONANT SIGN PANYIKU
1ba4 SUNDANESE VOWEL SIGN PANGHULU
1ba5 SUNDANESE VOWEL SIGN PANYUKU
1ba6 SUNDANESE VOWEL SIGN PANAELAENG
1ba7 SUNDANESE VOWEL SIGN PANOLONG
1ba8 SUNDANESE VOWEL SIGN PAMEPET
1ba9 SUNDANESE VOWEL SIGN PANEULEUNG
1baa SUNDANESE SIGN PAMAAEH
1bab SUNDANESE SIGN VIRAMA
1bac SUNDANESE CONSONANT SIGN PASANGAN MA
1bad SUNDANESE CONSONANT SIGN PASANGAN WA
1be6 BATAK SIGN TOMPI
1be7 BATAK VOWEL SIGN E
1be8 BATAK VOWEL SIGN PAKPAK E
1be9 BATAK VOWEL SIGN EE
1bea BATAK VOWEL SIGN I
1beb BATAK VOWEL SIGN KARO I
1bec BATAK VOWEL SIGN O
1bed BATAK VOWEL SIGN KARO O
1bee BATAK VOWEL SIGN U
1bef BATAK VOWEL SIGN U FOR SIMALUNGUN SA
1bf0 BATAK CONSONANT SIGN NG
1bf1 BATAK CONSONANT SIGN H
1bf2 BATAK PANGOLAT
1bf3 BATAK PANONGONAN
1c24 LEPCHA SUBJOINED LETTER YA
1c25 LEPCHA SUBJOINED LETTER RA
1c26 LEPCHA VOWEL SIGN AA
1c27 LEPCHA VOWEL SIGN I
1c28 LEPCHA VOWEL SIGN O
1c29 LEPCHA VOWEL SIGN OO
1c2a LEPCHA VOWEL SIGN U
1c2b LEPCHA VOWEL SIGN UU
1c2c LEPCHA VOWEL SIGN E
1c2d LEPCHA CONSONANT SIGN K
1c2e LEPCHA CONSONANT SIGN M
1c2f LEPCHA CONSONANT SIGN L
1c30 LEPCHA CONSONANT SIGN N
1c31 LEPCHA CONSONANT SIGN P
1c32 LEPCHA CONSONANT SIGN R
1c33 LEPCHA CONSONANT SIGN T
1c34 LEPCHA CONSONANT SIGN NYIN-DO
1c35 LEPCHA CONSONANT SIGN KANG
1c36 LEPCHA SIGN RAN
1c37 LEPCHA SIGN NUKTA
1cd0 VEDIC TONE KARSHANA
1cd1 VEDIC TONE SHARA
1cd2 VEDIC TONE PRENKHA
1cd4 VEDIC SIGN YAJURVEDIC MIDLINE SVARITA
1cd5 VEDIC TONE YAJURVEDIC AGGRAVATED INDEPENDENT SVARITA
1cd6 VEDIC TONE YAJURVEDIC INDEPENDENT SVARITA
1cd7 VEDIC TONE YAJURVEDIC KATHAKA INDEPENDENT SVARITA
1cd8 VEDIC TONE CANDRA BELOW
1cd9 VEDIC TONE YAJURVEDIC KATHAKA INDEPENDENT SVARITA SCHROEDER
1cda VEDIC TONE DOUBLE SVARITA
1cdb VEDIC TONE TRIPLE SVARITA
1cdc VEDIC TONE KATHAKA ANUDATTA
1cdd VEDIC TONE DOT BELOW
1cde VEDIC TONE TWO DOTS BELOW
1cdf VEDIC TONE THREE DOTS BELOW
1ce0 VEDIC TONE RIGVEDIC KASHMIRI INDEPENDENT SVARITA
1ce1 VEDIC TONE ATHARVAVEDIC INDEPENDENT SVARITA
1ce2 VEDIC SIGN VISARGA SVARITA
1ce3 VEDIC SIGN VISARGA UDATTA
1ce4 VEDIC SIGN REVERSED VISARGA UDATTA
1ce5 VEDIC SIGN VISARGA ANUDATTA
1ce6 VEDIC SIGN REVERSED VISARGA ANUDATTA
1ce7 VEDIC SIGN VISARGA UDATTA WITH TAIL
1ce8 VEDIC SIGN VISARGA ANUDATTA WITH TAIL
1ced VEDIC SIGN TIRYAK
1cf4 VEDIC TONE CANDRA ABOVE
1cf7 VEDIC SIGN ATIKRAMA
1cf8 VEDIC TONE RING ABOVE
1cf9 VEDIC TONE DOUBLE RING ABOVE
1dc0 COMBINING DOTTED GRAVE ACCENT
1dc1 COMBINING DOTTED ACUTE ACCENT
1dc2 COMBINING SNAKE BELOW
1dc3 COMBINING SUSPENSION MARK
1dc4 COMBINING MACRON-ACUTE
1dc5 COMBINING GRAVE-MACRON
1dc6 COMBINING MACRON-GRAVE
1dc7 COMBINING ACUTE-MACRON
1dc8 COMBINING GRAVE-ACUTE-GRAVE
1dc9 COMBINING ACUTE-GRAVE-ACUTE
1dca COMBINING LATIN SMALL LETTER R BELOW
1dcb COMBINING BREVE-MACRON
1dcc COMBINING MACRON-BREVE
1dcd COMBINING DOUBLE CIRCUMFLEX ABOVE
1dce COMBINING OGONEK ABOVE
1dcf COMBINING ZIGZAG BELOW
1dd0 COMBINING IS BELOW
1dd1 COMBINING UR ABOVE
1dd2 COMBINING US ABOVE
1dd3 COMBINING LATIN SMALL LETTER FLATTENED OPEN A ABOVE
1dd4 COMBINING LATIN SMALL LETTER AE
1dd5 COMBINING LATIN SMALL LETTER AO
1dd6 COMBINING LATIN SMALL LETTER AV
1dd7 COMBINING LATIN SMALL LETTER C CEDILLA
1dd8 COMBINING LATIN SMALL LETTER INSULAR D
1dd9 COMBINING LATIN SMALL LETTER ETH
1dda COMBINING LATIN SMALL LETTER G
1ddb COMBINING LATIN LETTER SMALL CAPITAL G
1ddc COMBINING LATIN SMALL LETTER K
1ddd COMBINING LATIN SMALL LETTER L
1dde COMBINING LATIN LETTER SMALL CAPITAL L
1ddf COMBINING LATIN LETTER SMALL CAPITAL M
1de0 COMBINING LATIN SMALL LETTER N
1de1 COMBINING LATIN LETTER SMALL CAPITAL N
1de2 COMBINING LATIN LETTER SMALL CAPITAL R
1de3 COMBINING LATIN SMALL LETTER R ROTUNDA
1de4 COMBINING LATIN SMALL LETTER S
1de5 COMBINING LATIN SMALL LETTER LONG S
1de6 COMBINING LATIN SMALL LETTER Z
1de7 COMBINING LATIN SMALL LETTER ALPHA
1de8 COMBINING LATIN SMALL LETTER B
1de9 COMBINING LATIN SMALL LETTER BETA
1dea COMBINING LATIN SMALL LETTER SCHWA
1deb COMBINING LATIN SMALL LETTER F
1dec COMBINING LATIN SMALL LETTER L WITH DOUBLE MIDDLE TILDE
1ded COMBINING LATIN SMALL LETTER O WITH LIGHT CENTRALIZATION STROKE
1dee COMBINING LATIN SMALL LETTER P
1def COMBINING LATIN SMALL LETTER ESH
1df0 COMBINING LATIN SMALL LETTER U WITH LIGHT CENTRALIZATION STROKE
1df1 COMBINING LATIN SMALL LETTER W
1df2 COMBINING LATIN SMALL LETTER A WITH DIAERESIS
1df3 COMBINING LATIN SMALL LETTER O WITH DIAERESIS
1df4 COMBINING LATIN SMALL LETTER U WITH DIAERESIS
1df5 COMBINING UP TACK ABOVE
1df6 COMBINING KAVYKA ABOVE RIGHT
1df7 COMBINING KAVYKA ABOVE LEFT
1df8 COMBINING DOT ABOVE LEFT
1df9 COMBINING WIDE INVERTED BRIDGE BELOW
1dfa COMBINING DOT BELOW LEFT
1dfb COMBINING DELETION MARK
1dfc COMBINING DOUBLE INVERTED BREVE BELOW
1dfd COMBINING ALMOST EQUAL TO BELOW
1dfe COMBINING LEFT ARROWHEAD ABOVE
1dff COMBINING RIGHT ARROWHEAD AND DOWN ARROWHEAD BELOW
2000 EN QUAD
2001 EM QUAD
2002 EN SPACE
2003 EM SPACE
2004 THREE-PER-EM SPACE
2005 FOUR-PER-EM SPACE
2006 SIX-PER-EM SPACE
2007 FIGURE SPACE
2008 PUNCTUATION SPACE
2009 THIN SPACE
200a HAIR SPACE
200b ZERO WIDTH SPACE
200c ZERO WIDTH NON-JOINER
200d ZERO WIDTH JOINER
200e LEFT-TO-RIGHT MARK
200f RIGHT-TO-LEFT MARK
2010 HYPHEN
2011 NON-BREAKING HYPHEN
2012 FIGURE DASH
2013 EN DASH
2014 EM DASH
2015 HORIZONTAL BAR
2016 DOUBLE VERTICAL LINE
2017 DOUBLE LOW LINE
2018 LEFT SINGLE QUOTATION MARK
2019 RIGHT SINGLE QUOTATION MARK
201a SINGLE LOW-9 QUOTATION MARK
201b SINGLE HIGH-REVERSED-9 QUOTATION MARK
201c LEFT DOUBLE QUOTATION MARK
201d RIGHT DOUBLE QUOTATION MARK
201e DOUBLE LOW-9 QUOTATION MARK
201f DOUBLE HIGH-REVERSED-9 QUOTATION MARK
2020 DAGGER
2021 DOUBLE DAGGER
2022 BULLET
2023 TRIANGULAR BULLET
2024 ONE DOT LEADER
2025 TWO DOT LEADER
2026 HORIZONTAL ELLIPSIS
2027 HYPHENATION POINT
2028 LINE SEPARATOR
2029 PARAGRAPH SEPARATOR
202a LEFT-TO-RIGHT EMBEDDING
202b RIGHT-TO-LEFT EMBEDDING
202c POP DIRECTIONAL FORMATTING
202d LEFT-TO-RIGHT OVERRIDE
202e RIGHT-TO-LEFT OVERRIDE
202f NARROW NO-BREAK SPACE
2030 PER MILLE SIGN
2031 PER TEN THOUSAND SIGN
2032 PRIME
2033 DOUBLE PRIME
2034 TRIPLE PRIME
2035 REVERSED PRIME
2036 REVERSED DOUBLE PRIME
2037 REVERSED TRIPLE PRIME
2038 CARET
2039 SINGLE LEFT-POINTING ANGLE QUOTATION MARK
203a SINGLE RIGHT-POINTING ANGLE QUOTATION MARK
203b REFERENCE MARK
203c DOUBLE EXCLAMATION MARK
203d INTERROBANG
203e OVERLINE
203f UNDERTIE
2040 CHARACTER TIE
2041 CARET INSERTION POINT
2042 ASTERISM
2043 HYPHEN BULLET
2044 FRACTION SLASH
2045 LEFT SQUARE BRACKET WITH QUILL
2046 RIGHT SQUARE BRACKET WITH QUILL
2047 DOUBLE QUESTION MARK
2048 QUESTION EXCLAMATION MARK
2049 EXCLAMATION QUESTION MARK
204a TIRONIAN SIGN ET
204b REVERSED PILCROW SIGN
204c BLACK LEFTWARDS BULLET
204d BLACK RIGHTWARDS BULLET
204e LOW ASTERISK
204f REVERSED SEMICOLON
2050 CLOSE UP
2051 TWO ASTERISKS ALIGNED VERTICALLY
2052 COMMERCIAL MINUS SIGN
2053 SWUNG DASH
2054 INVERTED UNDERTIE
2055 FLOWER PUNCTUATION MARK
2056 THREE DOT PUNCTUATION
2057 QUADRUPLE PRIME
2058 FOUR DOT PUNCTUATION
2059 FIVE DOT PUNCTUATION
205a TWO DOT PUNCTUATION
205b FOUR DOT MARK
205c DOTTED CROSS
205d TRICOLON
205e VERTICAL FOUR DOTS
205f MEDIUM MATHEMATICAL SPACE
2060 WORD JOINER
2061 FUNCTION APPLICATION
2062 INVISIBLE TIMES
2063 INVISIBLE SEPARATOR
2064 INVISIBLE PLUS
2066 LEFT-TO-RIGHT ISOLATE
2067 RIGHT-TO-LEFT ISOLATE
2068 FIRST STRONG ISOLATE
2069 POP DIRECTIONAL ISOLATE
206a INHIBIT SYMMETRIC SWAPPING
206b ACTIVATE SYMMETRIC SWAPPING
206c INHIBIT ARABIC FORM SHAPING
206d ACTIVATE ARABIC FORM SHAPING
206e NATIONAL DIGIT SHAPES
206f NOMINAL DIGIT SHAPES
20a0 EURO-CURRENCY SIGN
20a1 COLON SIGN
20a2 CRUZEIRO SIGN
20a3 FRENCH FRANC SIGN
20a4 LIRA SIGN
20a5 MILL SIGN
20a6 NAIRA SIGN
20a7 PESETA SIGN
20a8 RUPEE SIGN
20a9 WON SIGN
20aa NEW SHEQEL SIGN
20ab DONG SIGN
20ac EURO SIGN
20ad KIP SIGN
20ae TUGRIK SIGN
20af DRACHMA SIGN
20b0 GERMAN PENNY SIGN
20b1 PESO SIGN
20b2 GUARANI SIGN
20b3 AUSTRAL SIGN
20b4 HRYVNIA SIGN
20b5 CEDI SIGN
20b6 LIVRE TOURNOIS SIGN
20b7 SPESMILO SIGN
20b8 TENGE SIGN
20b9 INDIAN RUPEE SIGN
20ba TURKISH LIRA SIGN
20bb NORDIC MARK SIGN
20bc MANAT SIGN
20bd RUBLE SIGN
20be LARI SIGN
20bf BITCOIN SIGN
20c0 SOM SIGN
20d0 COMBINING LEFT HARPOON ABOVE
20d1 COMBINING RIGHT HARPOON ABOVE
20d2 COMBINING LONG VERTICAL LINE OVERLAY
20d3 COMBINING SHORT VERTICAL LINE OVERLAY
20d4 COMBINING ANTICLOCKWISE ARROW ABOVE
20d5 COMBINING CLOCKWISE ARROW ABOVE
20d6 COMBINING LEFT ARROW ABOVE
20d7 COMBINING RIGHT ARROW ABOVE
20d8 COMBINING RING OVERLAY
20d9 COMBINING CLOCKWISE RING OVERLAY
20da COMBINING ANTICLOCKWISE RING OVERLAY
20db COMBINING THREE DOTS ABOVE
20dc COMBINING FOUR DOTS ABOVE
20dd COMBINING ENCLOSING CIRCLE
20de COMBINING ENCLOSING SQUARE
20df COMBINING ENCLOSING DIAMOND
20e0 COMBINING ENCLOSING CIRCLE BACKSLASH
20e1 COMBINING LEFT RIGHT ARROW ABOVE
20e2 COMBINING ENCLOSING SCREEN
20e3 COMBINING ENCLOSING KEYCAP
20e4 COMBINING ENCLOSING UPWARD POINTING TRIANGLE
20e5 COMBINING REVERSE SOLIDUS OVERLAY
20e6 COMBINING DOUBLE VERTICAL STROKE OVERLAY
20e7 COMBINING ANNUITY SYMBOL
20e8 COMBINING TRIPLE UNDERDOT
20e9 COMBINING WIDE BRIDGE ABOVE
20ea COMBINING LEFTWARDS ARROW OVERLAY
20eb COMBINING LONG DOUBLE SOLIDUS OVERLAY
20ec COMBINING RIGHTWARDS HARPOON WITH BARB DOWNWARDS
20ed COMBINING LEFTWARDS HARPOON WITH BARB DOWNWARDS
20ee COMBINING LEFT ARROW BELOW
20ef COMBINING RIGHT ARROW BELOW
20f0 COMBINING ASTERISK ABOVE
2100 ACCOUNT OF
2101 ADDRESSED TO THE SUBJECT
2102 DOUBLE-STRUCK CAPITAL C
2103 DEGREE CELSIUS
2104 CENTRE LINE SYMBOL
2105 CARE OF
2106 CADA UNA
2107 EULER CONSTANT
2108 SCRUPLE
2109 DEGREE FAHRENHEIT
210a SCRIPT SMALL G
210b SCRIPT CAPITAL H
210c BLACK-LETTER CAPITAL H
210d DOUBLE-STRUCK CAPITAL H
210e PLANCK CONSTANT
210f PLANCK CONSTANT OVER TWO PI
2110 SCRIPT CAPITAL I
2111 BLACK-LETTER CAPITAL I
2112 SCRIPT CAPITAL L
2113 SCRIPT SMALL L
2114 L B BAR SYMBOL
2115 DOUBLE-STRUCK CAPITAL N
2116 NUMERO SIGN
2117 SOUND RECORDING COPYRIGHT
2118 SCRIPT CAPITAL P
2119 DOUBLE-STRUCK CAPITAL P
211a DOUBLE-STRUCK CAPITAL Q
211b SCRIPT CAPITAL R
211c BLACK-LETTER CAPITAL R
211d DOUBLE-STRUCK CAPITAL R
211e PRESCRIPTION TAKE
211f RESPONSE
2120 SERVICE MARK
2121 TELEPHONE SIGN
2122 TRADE MARK SIGN
2123 VERSICLE
2124 DOUBLE-STRUCK CAPITAL Z
2125 OUNCE SIGN
2126 OHM SIGN
2127 INVERTED OHM SIGN
2128 BLACK-LETTER CAPITAL Z
2129 TURNED GREEK SMALL LETTER IOTA
212a KELVIN SIGN
212b ANGSTROM SIGN
212c SCRIPT CAPITAL B
212d BLACK-LETTER CAPITAL C
212e ESTIMATED SYMBOL
212f SCRIPT SMALL E
2130 SCRIPT CAPITAL E
2131 SCRIPT CAPITAL F
2132 TURNED CAPITAL F
2133 SCRIPT CAPITAL M
2134 SCRIPT SMALL O
2135 ALEF SYMBOL
2136 BET SYMBOL
2137 GIMEL SYMBOL
2138 DALET SYMBOL
2139 INFORMATION SOURCE
213a ROTATED CAPITAL Q
213b FACSIMILE SIGN
213c DOUBLE-STRUCK SMALL PI
213d DOUBLE-STRUCK SMALL GAMMA
213e DOUBLE-STRUCK CAPITAL GAMMA
213f DOUBLE-STRUCK CAPITAL PI
2140 DOUBLE-STRUCK N-ARY SUMMATION
2141 TURNED SANS-SERIF CAPITAL G
2142 TURNED SANS-SERIF CAPITAL L
2143 REVERSED SANS-SERIF CAPITAL L
2144 TURNED SANS-SERIF CAPITAL Y
2145 DOUBLE-STRUCK ITALIC CAPITAL D
2146 DOUBLE-STRUCK ITALIC SMALL D
2147 DOUBLE-STRUCK ITALIC SMALL E
2148 DOUBLE-STRUCK ITALIC SMALL I
2149 DOUBLE-STRUCK ITALIC SMALL J
214a PROPERTY LINE
214b TURNED AMPERSAND
214c PER SIGN
214d AKTIESELSKAB
214e TURNED SMALL F
214f SYMBOL FOR SAMARITAN SOURCE
2150 VULGAR FRACTION ONE SEVENTH
2151 VULGAR FRACTION ONE NINTH
2152 VULGAR FRACTION ONE TENTH
2153 VULGAR FRACTION ONE THIRD
2154 VULGAR FRACTION TWO THIRDS
2155 VULGAR FRACTION ONE FIFTH
2156 VULGAR FRACTION TWO FIFTHS
2157 VULGAR FRACTION THREE FIFTHS
2158 VULGAR FRACTION FOUR FIFTHS
2159 VULGAR FRACTION ONE SIXTH
215a VULGAR FRACTION FIVE SIXTHS
215b VULGAR FRACTION ONE EIGHTH
215c VULGAR FRACTION THREE EIGHTHS
215d VULGAR FRACTION FIVE EIGHTHS
215e VULGAR FRACTION SEVEN EIGHTHS
215f FRACTION NUMERATOR ONE
2160 ROMAN NUMERAL ONE
2161 ROMAN NUMERAL TWO
2162 ROMAN NUMERAL THREE
2163 ROMAN NUMERAL FOUR
2164 ROMAN NUMERAL FIVE
2165 ROMAN NUMERAL SIX
2166 ROMAN NUMERAL SEVEN
2167 ROMAN NUMERAL EIGHT
2168 ROMAN NUMERAL NINE
2169 ROMAN NUMERAL TEN
216a ROMAN NUMERAL ELEVEN
216b ROMAN NUMERAL TWELVE
216c ROMAN NUMERAL FIFTY
216d ROMAN NUMERAL ONE HUNDRED
216e ROMAN NUMERAL FIVE HUNDRED
216f ROMAN NUMERAL ONE THOUSAND
2170 SMALL ROMAN NUMERAL ONE
2171 SMALL ROMAN NUMERAL TWO
2172 SMALL ROMAN NUMERAL THREE
2173 SMALL ROMAN NUMERAL FOUR
2174 SMALL ROMAN NUMERAL FIVE
2175 SMALL ROMAN NUMERAL SIX
2176 SMALL ROMAN NUMERAL SEVEN
2177 SMALL ROMAN NUMERAL EIGHT
2178 SMALL ROMAN NUMERAL NINE
2179 SMALL ROMAN NUMERAL TEN
217a SMALL ROMAN NUMERAL ELEVEN
217b SMALL ROMAN NUMERAL TWELVE
217c SMALL ROMAN NUMERAL FIFTY
217d SMALL ROMAN NUMERAL ONE HUNDRED
217e SMALL ROMAN NUMERAL FIVE HUNDRED
217f SMALL ROMAN NUMERAL ONE THOUSAND
2180 ROMAN NUMERAL ONE THOUSAND C D
2181 ROMAN NUMERAL FIVE THOUSAND
2182 ROMAN NUMERAL TEN THOUSAND
2183 ROMAN NUMERAL REVERSED ONE HUNDRED
2184 LATIN SMALL LETTER REVERSED C
2185 ROMAN NUMERAL SIX LATE FORM
2186 ROMAN NUMERAL FIFTY EARLY FORM
2187 ROMAN NUMERAL FIFTY THOUSAND
2188 ROMAN NUMERAL ONE HUNDRED THOUSAND
2189 VULGAR FRACTION ZERO THIRDS
218a TURNED DIGIT TWO
218b TURNED DIGIT THREE
2190 LEFTWARDS ARROW
2191 UPWARDS ARROW
2192 RIGHTWARDS ARROW
2193 DOWNWARDS ARROW
2194 LEFT RIGHT ARROW
2195 UP DOWN ARROW
2196 NORTH WEST ARROW
2197 NORTH EAST ARROW
2198 SOUTH EAST ARROW
2199 SOUTH WEST ARROW
219a LEFTWARDS ARROW WITH STROKE
219b RIGHTWARDS ARROW WITH STROKE
219c LEFTWARDS WAVE ARROW
219d RIGHTWARDS WAVE ARROW
219e LEFTWARDS TWO HEADED ARROW
219f UPWARDS TWO HEADED ARROW
21a0 RIGHTWARDS TWO HEADED ARROW
21a1 DOWNWARDS TWO HEADED ARROW
21a2 LEFTWARDS ARROW WITH TAIL
21a3 RIGHTWARDS ARROW WITH TAIL
21a4 LEFTWARDS ARROW FROM BAR
21a5 UPWARDS ARROW FROM BAR
21a6 RIGHTWARDS ARROW FROM BAR
21a7 DOWNWARDS ARROW FROM BAR
21a8 UP DOWN ARROW WITH BASE
21a9 LEFTWARDS ARROW WITH HOOK
21aa RIGHTWARDS ARROW WITH HOOK
21ab LEFTWARDS ARROW WITH LOOP
21ac RIGHTWARDS ARROW WITH LOOP
21ad LEFT RIGHT WAVE ARROW
21ae LEFT RIGHT ARROW WITH STROKE
21af DOWNWARDS ZIGZAG ARROW
21b0 UPWARDS ARROW WITH TIP LEFTWARDS
21b1 UPWARDS ARROW WITH TIP RIGHTWARDS
21b2 DOWNWARDS ARROW WITH TIP LEFTWARDS
21b3 DOWNWARDS ARROW WITH TIP RIGHTWARDS
21b4 RIGHTWARDS ARROW WITH CORNER DOWNWARDS
21b5 DOWNWARDS ARROW WITH CORNER LEFTWARDS
21b6 ANTICLOCKWISE TOP SEMICIRCLE ARROW
21b7 CLOCKWISE TOP SEMICIRCLE ARROW
21b8 NORTH WEST ARROW TO LONG BAR
21b9 LEFTWARDS ARROW TO BAR OVER RIGHTWARDS ARROW TO BAR
21ba ANTICLOCKWISE OPEN CIRCLE ARROW
21bb CLOCKWISE OPEN CIRCLE ARROW
21bc LEFTWARDS HARPOON WITH BARB UPWARDS
21bd LEFTWARDS HARPOON WITH BARB DOWNWARDS
21be UPWARDS HARPOON WITH BARB RIGHTWARDS
21bf UPWARDS HARPOON WITH BARB LEFTWARDS
21c0 RIGHTWARDS HARPOON WITH BARB UPWARDS
21c1 RIGHTWARDS HARPOON WITH BARB DOWNWARDS
21c2 DOWNWARDS HARPOON WITH BARB RIGHTWARDS
21c3 DOWNWARDS HARPOON WITH BARB LEFTWARDS
21c4 RIGHTWARDS ARROW OVER LEFTWARDS ARROW
21c5 UPWARDS ARROW LEFTWARDS OF DOWNWARDS ARROW
21c6 LEFTWARDS ARROW OVER RIGHTWARDS ARROW
21c7 LEFTWARDS PAIRED ARROWS
21c8 UPWARDS PAIRED ARROWS
21c9 RIGHTWARDS PAIRED ARROWS
21ca DOWNWARDS PAIRED ARROWS
21cb LEFTWARDS HARPOON OVER RIGHTWARDS HARPOON
21cc RIGHTWARDS HARPOON OVER LEFTWARDS HARPOON
21cd LEFTWARDS DOUBLE ARROW WITH STROKE
21ce LEFT RIGHT DOUBLE ARROW WITH STROKE
21cf RIGHTWARDS DOUBLE ARROW WITH STROKE
21d0 LEFTWARDS DOUBLE ARROW
21d1 UPWARDS DOUBLE ARROW
21d2 RIGHTWARDS DOUBLE ARROW
21d3 DOWNWARDS DOUBLE ARROW
21d4 LEFT RIGHT DOUBLE ARROW
21d5 UP DOWN DOUBLE ARROW
21d6 NORTH WEST DOUBLE ARROW
21d7 NORTH EAST DOUBLE ARROW
21d8 SOUTH EAST DOUBLE ARROW
21d9 SOUTH WEST DOUBLE ARROW
21da LEFTWARDS TRIPLE ARROW
21db RIGHTWARDS TRIPLE ARROW
21dc LEFTWARDS SQUIGGLE ARROW
21dd RIGHTWARDS SQUIGGLE ARROW
21de UPWARDS ARROW WITH DOUBLE STROKE
21df DOWNWARDS ARROW WITH DOUBLE STROKE
21e0 LEFTWARDS DASHED ARROW
21e1 UPWARDS DASHED ARROW
21e2 RIGHTWARDS DASHED ARROW
21e3 DOWNWARDS DASHED ARROW
21e4 LEFTWARDS ARROW TO BAR
21e5 RIGHTWARDS ARROW TO BAR
21e6 LEFTWARDS WHITE ARROW
21e7 UPWARDS WHITE ARROW
21e8 RIGHTWARDS WHITE ARROW
21e9 DOWNWARDS WHITE ARROW
21ea UPWARDS WHITE ARROW FROM BAR
21eb UPWARDS WHITE ARROW ON PEDESTAL
21ec UPWARDS WHITE ARROW ON PEDESTAL WITH HORIZONTAL BAR
21ed UPWARDS WHITE ARROW ON PEDESTAL WITH VERTICAL BAR
21ee UPWARDS WHITE DOUBLE ARROW
21ef UPWARDS WHITE DOUBLE ARROW ON PEDESTAL
21f0 RIGHTWARDS WHITE ARROW FROM WALL
21f1 NORTH WEST ARROW TO CORNER
21f2 SOUTH EAST ARROW TO CORNER
21f3 UP DOWN WHITE ARROW
21f4 RIGHT ARROW WITH SMALL CIRCLE
21f5 DOWNWARDS ARROW LEFTWARDS OF UPWARDS ARROW
21f6 THREE RIGHTWARDS ARROWS
21f7 LEFTWARDS ARROW WITH VERTICAL STROKE
21f8 RIGHTWARDS ARROW WITH VERTICAL STROKE
21f9 LEFT RIGHT ARROW WITH VERTICAL STROKE
21fa LEFTWARDS ARROW WITH DOUBLE VERTICAL STROKE
21fb RIGHTWARDS ARROW WITH DOUBLE VERTICAL STROKE
21fc LEFT RIGHT ARROW WITH DOUBLE VERTICAL STROKE
21fd LEFTWARDS OPEN-HEADED ARROW
21fe RIGHTWARDS OPEN-HEADED ARROW
21ff LEFT RIGHT OPEN-HEADED ARROW
2200 FOR ALL
2201 COMPLEMENT
2202 PARTIAL DIFFERENTIAL
2203 THERE EXISTS
2204 THERE DOES NOT EXIST
2205 EMPTY SET
2206 INCREMENT
2207 NABLA
2208 ELEMENT OF
2209 NOT AN ELEMENT OF
220a SMALL ELEMENT OF
220b CONTAINS AS MEMBER
220c DOES NOT CONTAIN AS MEMBER
220d SMALL CONTAINS AS MEMBER
220e END OF PROOF
220f N-ARY PRODUCT
2210 N-ARY COPRODUCT
2211 N-ARY SUMMATION
2212 MINUS SIGN
2213 MINUS-OR-PLUS SIGN
2214 DOT PLUS
2215 DIVISION SLASH
2216 SET MINUS
2217 ASTERISK OPERATOR
2218 RING OPERATOR
2219 BULLET OPERATOR
221a SQUARE ROOT
221b CUBE ROOT
221c FOURTH ROOT
221d PROPORTIONAL TO
221e INFINITY
221f RIGHT ANGLE
2220 ANGLE
2221 MEASURED ANGLE
2222 SPHERICAL ANGLE
2223 DIVIDES
2224 DOES NOT DIVIDE
2225 PARALLEL TO
2226 NOT PARALLEL TO
2227 LOGICAL AND
2228 LOGICAL OR
2229 INTERSECTION
222a UNION
222b INTEGRAL
222c DOUBLE INTEGRAL
222d TRIPLE INTEGRAL
222e CONTOUR INTEGRAL
222f SURFACE INTEGRAL
2230 VOLUME INTEGRAL
2231 CLOCKWISE INTEGRAL
2232 CLOCKWISE CONTOUR INTEGRAL
2233 ANTICLOCKWISE CONTOUR INTEGRAL
2234 THEREFORE
2235 BECAUSE
2236 RATIO
2237 PROPORTION
2238 DOT MINUS
2239 EXCESS
223a GEOMETRIC PROPORTION
223b HOMOTHETIC
223c TILDE OPERATOR
223d REVERSED TILDE
223e INVERTED LAZY S
223f SINE WAVE
2240 WREATH PRODUCT
2241 NOT TILDE
2242 MINUS TILDE
2243 ASYMPTOTICALLY EQUAL TO
2244 NOT ASYMPTOTICALLY EQUAL TO
2245 APPROXIMATELY EQUAL TO
2246 APPROXIMATELY BUT NOT ACTUALLY EQUAL TO
2247 NEITHER APPROXIMATELY NOR ACTUALLY EQUAL TO
2248 ALMOST EQUAL TO
2249 NOT ALMOST EQUAL TO
224a ALMOST EQUAL OR EQUAL TO
224b TRIPLE TILDE
224c ALL EQUAL TO
224d EQUIVALENT TO
224e GEOMETRICALLY EQUIVALENT TO
224f DIFFERENCE BETWEEN
2250 APPROACHES THE LIMIT
2251 GEOMETRICALLY EQUAL TO
2252 APPROXIMATELY EQUAL TO OR THE IMAGE OF
2253 IMAGE OF OR APPROXIMATELY EQUAL TO
2254 COLON EQUALS
2255 EQUALS COLON
2256 RING IN EQUAL TO
2257 RING EQUAL TO
2258 CORRESPONDS TO
2259 ESTIMATES
225a EQUIANGULAR TO
225b STAR EQUALS
225c DELTA EQUAL TO
225d EQUAL TO BY DEFINITION
225e MEASURED BY
225f QUESTIONED EQUAL TO
2260 NOT EQUAL TO
2261 IDENTICAL TO
2262 NOT IDENTICAL TO
2263 STRICTLY EQUIVALENT TO
2264 LESS-THAN OR EQUAL TO
2265 GREATER-THAN OR EQUAL TO
2266 LESS-THAN OVER EQUAL TO
2267 GREATER-THAN OVER EQUAL TO
2268 LESS-THAN BUT NOT EQUAL TO
2269 GREATER-THAN BUT NOT EQUAL TO
226a MUCH LESS-THAN
226b MUCH GREATER-THAN
226c BETWEEN
226d NOT EQUIVALENT TO
226e NOT LESS-THAN
226f NOT GREATER-THAN
2270 NEITHER LESS-THAN NOR EQUAL TO
2271 NEITHER GREATER-THAN NOR EQUAL TO
2272 LESS-THAN OR EQUIVALENT TO
2273 GREATER-THAN OR EQUIVALENT TO
2274 NEITHER LESS-THAN NOR EQUIVALENT TO
2275 NEITHER GREATER-THAN NOR EQUIVALENT TO
2276 LESS-THAN OR GREATER-THAN
2277 GREATER-THAN OR LESS-THAN
2278 NEITHER LESS-THAN NOR GREATER-THAN
2279 NEITHER GREATER-THAN NOR LESS-THAN
227a PRECEDES
227b SUCCEEDS
227c PRECEDES OR EQUAL TO
227d SUCCEEDS OR EQUAL TO
227e PRECEDES OR EQUIVALENT TO
227f SUCCEEDS OR EQUIVALENT TO
2280 DOES NOT PRECEDE
2281 DOES NOT SUCCEED
2282 SUBSET OF
2283 SUPERSET OF
2284 NOT A SUBSET OF
2285 NOT A SUPERSET OF
2286 SUBSET OF OR EQUAL TO
2287 SUPERSET OF OR EQUAL TO
2288 NEITHER A SUBSET OF NOR EQUAL TO
2289 NEITHER A SUPERSET OF NOR EQUAL TO
228a SUBSET OF WITH NOT EQUAL TO
228b SUPERSET OF WITH NOT EQUAL TO
228c MULTISET
228d MULTISET MULTIPLICATION
228e MULTISET UNION
228f SQUARE IMAGE OF
2290 SQUARE ORIGINAL OF
2291 SQUARE IMAGE OF OR EQUAL TO
2292 SQUARE ORIGINAL OF OR EQUAL TO
2293 SQUARE CAP
2294 SQUARE CUP
2295 CIRCLED PLUS
2296 CIRCLED MINUS
2297 CIRCLED TIMES
2298 CIRCLED DIVISION SLASH
2299 CIRCLED DOT OPERATOR
229a CIRCLED RING OPERATOR
229b CIRCLED ASTERISK OPERATOR
229c CIRCLED EQUALS
229d CIRCLED DASH
229e SQUARED PLUS
229f SQUARED MINUS
22a0 SQUARED TIMES
22a1 SQUARED DOT OPERATOR
22a2 RIGHT TACK
22a3 LEFT TACK
22a4 DOWN TACK
22a5 UP TACK
22a6 ASSERTION
22a7 MODELS
22a8 TRUE
22a9 FORCES
22aa TRIPLE VERTICAL BAR RIGHT TURNSTILE
22ab DOUBLE VERTICAL BAR DOUBLE RIGHT TURNSTILE
22ac DOES NOT PROVE
22ad NOT TRUE
22ae DOES NOT FORCE
22af NEGATED DOUBLE VERTICAL BAR DOUBLE RIGHT TURNSTILE
22b0 PRECEDES UNDER RELATION
22b1 SUCCEEDS UNDER RELATION
22b2 NORMAL SUBGROUP OF
22b3 CONTAINS AS NORMAL SUBGROUP
22b4 NORMAL SUBGROUP OF OR EQUAL TO
22b5 CONTAINS AS NORMAL SUBGROUP OR EQUAL TO
22b6 ORIGINAL OF
22b7 IMAGE OF
22b8 MULTIMAP
22b9 HERMITIAN CONJUGATE MATRIX
22ba INTERCALATE
22bb XOR
22bc NAND
22bd NOR
22be RIGHT ANGLE WITH ARC
22bf RIGHT TRIANGLE
22c0 N-ARY LOGICAL AND
22c1 N-ARY LOGICAL OR
22c2 N-ARY INTERSECTION
22c3 N-ARY UNION
22c4 DIAMOND OPERATOR
22c5 DOT OPERATOR
22c6 STAR OPERATOR
22c7 DIVISION TIMES
22c8 BOWTIE
22c9 LEFT NORMAL FACTOR SEMIDIRECT PRODUCT
22ca RIGHT NORMAL FACTOR SEMIDIRECT PRODUCT
22cb LEFT SEMIDIRECT PRODUCT
22cc RIGHT SEMIDIRECT PRODUCT
22cd REVERSED TILDE EQUALS
22ce CURLY LOGICAL OR
22cf CURLY LOGICAL AND
22d0 DOUBLE SUBSET
22d1 DOUBLE SUPERSET
22d2 DOUBLE INTERSECTION
22d3 DOUBLE UNION
22d4 PITCHFORK
22d5 EQUAL AND PARALLEL TO
22d6 LESS-THAN WITH DOT
22d7 GREATER-THAN WITH DOT
22d8 VERY MUCH LESS-THAN
22d9 VERY MUCH GREATER-THAN
22da LESS-THAN EQUAL TO OR GREATER-THAN
22db GREATER-THAN EQUAL TO OR LESS-THAN
22dc EQUAL TO OR LESS-THAN
22dd EQUAL TO OR GREATER-THAN
22de EQUAL TO OR PRECEDES
22df EQUAL TO OR SUCCEEDS
22e0 DOES NOT PRECEDE OR EQUAL
22e1 DOES NOT SUCCEED OR EQUAL
22e2 NOT SQUARE IMAGE OF OR EQUAL TO
22e3 NOT SQUARE ORIGINAL OF OR EQUAL TO
22e4 SQUARE IMAGE OF OR NOT EQUAL TO
22e5 SQUARE ORIGINAL OF OR NOT EQUAL TO
22e6 LESS-THAN BUT NOT EQUIVALENT TO
22e7 GREATER-THAN BUT NOT EQUIVALENT TO
22e8 PRECEDES BUT NOT EQUIVALENT TO
22e9 SUCCEEDS BUT NOT EQUIVALENT TO
22ea NOT NORMAL SUBGROUP OF
22eb DOES NOT CONTAIN AS NORMAL SUBGROUP
22ec NOT NORMAL SUBGROUP OF OR EQUAL TO
22ed DOES NOT CONTAIN AS NORMAL SUBGROUP OR EQUAL
22ee VERTICAL ELLIPSIS
22ef MIDLINE HORIZONTAL ELLIPSIS
22f0 UP RIGHT DIAGONAL ELLIPSIS
22f1 DOWN RIGHT DIAGONAL ELLIPSIS
22f2 ELEMENT OF WITH LONG HORIZONTAL STROKE
22f3 ELEMENT OF WITH VERTICAL BAR AT END OF HORIZONTAL STROKE
22f4 SMALL ELEMENT OF WITH VERTICAL BAR AT END OF HORIZONTAL STROKE
22f5 ELEMENT OF WITH DOT ABOVE
22f6 ELEMENT OF WITH OVERBAR
22f7 SMALL ELEMENT OF WITH OVERBAR
22f8 ELEMENT OF WITH UNDERBAR
22f9 ELEMENT OF WITH TWO HORIZONTAL STROKES
22fa CONTAINS WITH LONG HORIZONTAL STROKE
22fb CONTAINS WITH VERTICAL BAR AT END OF HORIZONTAL STROKE
22fc SMALL CONTAINS WITH VERTICAL BAR AT END OF HORIZONTAL STROKE
22fd CONTAINS WITH OVERBAR
22fe SMALL CONTAINS WITH OVERBAR
22ff Z NOTATION BAG MEMBERSHIP
2cef COPTIC COMBINING NI ABOVE
2cf0 COPTIC COMBINING SPIRITUS ASPER
2cf1 COPTIC COMBINING SPIRITUS LENIS
2d7f TIFINAGH CONSONANT JOINER
2de0 COMBINING CYRILLIC LETTER BE
2de1 COMBINING CYRILLIC LETTER VE
2de2 COMBINING CYRILLIC LETTER GHE
2de3 COMBINING CYRILLIC LETTER DE
2de4 COMBINING CYRILLIC LETTER ZHE
2de5 COMBINING CYRILLIC LETTER ZE
2de6 COMBINING CYRILLIC LETTER KA
2de7 COMBINING CYRILLIC LETTER EL
2de8 COMBINING CYRILLIC LETTER EM
2de9 COMBINING CYRILLIC LETTER EN
2dea COMBINING CYRILLIC LETTER O
2deb COMBINING CYRILLIC LETTER PE
2dec COMBINING CYRILLIC LETTER ER
2ded COMBINING CYRILLIC LETTER ES
2dee COMBINING CYRILLIC LETTER TE
2def COMBINING CYRILLIC LETTER HA
2df0 COMBINING CYRILLIC LETTER TSE
2df1 COMBINING CYRILLIC LETTER CHE
2df2 COMBINING CYRILLIC LETTER SHA
2df3 COMBINING CYRILLIC LETTER SHCHA
2df4 COMBINING CYRILLIC LETTER FITA
2df5 COMBINING CYRILLIC LETTER ES-TE
2df6 COMBINING CYRILLIC LETTER A
2df7 COMBINING CYRILLIC LETTER IE
2df8 COMBINING CYRILLIC LETTER DJERV
2df9 COMBINING CYRILLIC LETTER MONOGRAPH UK
2dfa COMBINING CYRILLIC LETTER YAT
2dfb COMBINING CYRILLIC LETTER YU
2dfc COMBINING CYRILLIC LETTER IOTIFIED A
2dfd COMBINING CYRILLIC LETTER LITTLE YUS
2dfe COMBINING CYRILLIC LETTER BIG YUS
2dff COMBINING CYRILLIC LETTER IOTIFIED BIG YUS
3000 IDEOGRAPHIC SPACE
302a IDEOGRAPHIC LEVEL TONE MARK
302b IDEOGRAPHIC RISING TONE MARK
302c IDEOGRAPHIC DEPARTING TONE MARK
302d IDEOGRAPHIC ENTERING TONE MARK
302e HANGUL SINGLE DOT TONE MARK
302f HANGUL DOUBLE DOT TONE MARK
3099 COMBINING KATAKANA-HIRAGANA VOICED SOUND MARK
309a COMBINING KATAKANA-HIRAGANA SEMI-VOICED SOUND MARK
a66f COMBINING CYRILLIC VZMET
a670 COMBINING CYRILLIC TEN MILLIONS SIGN
a671 COMBINING CYRILLIC HUNDRED MILLIONS SIGN
a672 COMBINING CYRILLIC THOUSAND MILLIONS SIGN
a674 COMBINING CYRILLIC LETTER UKRAINIAN IE
a675 COMBINING CYRILLIC LETTER I
a676 COMBINING CYRILLIC LETTER YI
a677 COMBINING CYRILLIC LETTER U
a678 COMBINING CYRILLIC LETTER HARD SIGN
a679 COMBINING CYRILLIC LETTER YERU
a67a COMBINING CYRILLIC LETTER SOFT SIGN
a67b COMBINING CYRILLIC LETTER OMEGA
a67c COMBINING CYRILLIC KAVYKA
a67d COMBINING CYRILLIC PAYEROK
a69e COMBINING CYRILLIC LETTER EF
a69f COMBINING CYRILLIC LETTER IOTIFIED E
a6f0 BAMUM COMBINING MARK KOQNDON
a6f1 BAMUM COMBINING MARK TUKWENTIS
a802 SYLOTI NAGRI SIGN DVISVARA
a806 SYLOTI NAGRI SIGN HASANTA
a80b SYLOTI NAGRI SIGN ANUSVARA
a823 SYLOTI NAGRI VOWEL SIGN A
a824 SYLOTI NAGRI VOWEL SIGN I
a825 SYLOTI NAGRI VOWEL SIGN U
a826 SYLOTI NAGRI VOWEL SIGN E
a827 SYLOTI NAGRI VOWEL SIGN OO
a82c SYLOTI NAGRI SIGN ALTERNATE HASANTA
a880 SAURASHTRA SIGN ANUSVARA
a881 SAURASHTRA SIGN VISARGA
a8b4 SAURASHTRA CONSONANT SIGN HAARU
a8b5 SAURASHTRA VOWEL SIGN AA
a8b6 SAURASHTRA VOWEL SIGN I
a8b7 SAURASHTRA VOWEL SIGN II
a8b8 SAURASHTRA VOWEL SIGN U
a8b9 SAURASHTRA VOWEL SIGN UU
a8ba SAURASHTRA VOWEL SIGN VOCALIC R
a8bb SAURASHTRA VOWEL SIGN VOCALIC RR
a8bc SAURASHTRA VOWEL SIGN VOCALIC L
a8bd SAURASHTRA VOWEL SIGN VOCALIC LL
a8be SAURASHTRA VOWEL SIGN E
a8bf SAURASHTRA VOWEL SIGN EE
a8c0 SAURASHTRA VOWEL SIGN AI
a8c1 SAURASHTRA VOWEL SIGN O
a8c2 SAURASHTRA VOWEL SIGN OO
a8c3 SAURASHTRA VOWEL SIGN AU
a8c4 SAURASHTRA SIGN VIRAMA
a8c5 SAURASHTRA SIGN CANDRABINDU
a8e0 COMBINING DEVANAGARI DIGIT ZERO
a8e1 COMBINING DEVANAGARI DIGIT ONE
a8e2 COMBINING DEVANAGARI DIGIT TWO
a8e3 COMBINING DEVANAGARI DIGIT THREE
a8e4 COMBINING DEVANAGARI DIGIT FOUR
a8e5 COMBINING DEVANAGARI DIGIT FIVE
a8e6 COMBINING DEVANAGARI DIGIT SIX
a8e7 COMBINING DEVANAGARI DIGIT SEVEN
a8e8 COMBINING DEVANAGARI DIGIT EIGHT
a8e9 COMBINING DEVANAGARI DIGIT NINE
a8ea COMBINING DEVANAGARI LETTER A
a8eb COMBINING DEVANAGARI LETTER U
a8ec COMBINING DEVANAGARI LETTER KA
a8ed COMBINING DEVANAGARI LETTER NA
a8ee COMBINING DEVANAGARI LETTER PA
a8ef COMBINING DEVANAGARI LETTER RA
a8f0 COMBINING DEVANAGARI LETTER VI
a8f1 COMBINING DEVANAGARI SIGN AVAGRAHA
a8ff DEVANAGARI VOWEL SIGN AY
a926 KAYAH LI VOWEL UE
a927 KAYAH LI VOWEL E
a928 KAYAH LI VOWEL U
a929 KAYAH LI VOWEL EE
a92a KAYAH LI VOWEL O
a92b KAYAH LI TONE PLOPHU
a92c KAYAH LI TONE CALYA
a92d KAYAH LI TONE CALYA PLOPHU
a947 REJANG VOWEL SIGN I
a948 REJANG VOWEL SIGN U
a949 REJANG VOWEL SIGN E
a94a REJANG VOWEL SIGN AI
a94b REJANG VOWEL SIGN O
a94c REJANG VOWEL SIGN AU
a94d REJANG VOWEL SIGN EU
a94e REJANG VOWEL SIGN EA
a94f REJANG CONSONANT SIGN NG
a950 REJANG CONSONANT SIGN N
a951 REJANG CONSONANT SIGN R
a952 REJANG CONSONANT SIGN H
a953 REJANG VIRAMA
a980 JAVANESE SIGN PANYANGGA
a981 JAVANESE SIGN CECAK
a982 JAVANESE SIGN LAYAR
a983 JAVANESE SIGN WIGNYAN
a9b3 JAVANESE SIGN CECAK TELU
a9b4 JAVANESE VOWEL SIGN TARUNG
a9b5 JAVANESE VOWEL SIGN TOLONG
a9b6 JAVANESE VOWEL SIGN WULU
a9b7 JAVANESE VOWEL SIGN WULU MELIK
a9b8 JAVANESE VOWEL SIGN SUKU
a9b9 JAVANESE VOWEL SIGN SUKU MENDUT
a9ba JAVANESE VOWEL SIGN TALING
a9bb JAVANESE VOWEL SIGN DIRGA MURE
a9bc JAVANESE VOWEL SIGN PEPET
a9bd JAVANESE CONSONANT SIGN KERET
a9be JAVANESE CONSONANT SIGN PENGKAL
a9bf JAVANESE CONSONANT SIGN CAKRA
a9c0 JAVANESE PANGKON
a9e5 MYANMAR SIGN SHAN SAW
aa29 CHAM VOWEL SIGN AA
aa2a CHAM VOWEL SIGN I
aa2b CHAM VOWEL SIGN II
aa2c CHAM VOWEL SIGN EI
aa2d CHAM VOWEL SIGN U
aa2e CHAM VOWEL SIGN OE
aa2f CHAM VOWEL SIGN O
aa30 CHAM VOWEL SIGN AI
aa31 CHAM VOWEL SIGN AU
aa32 CHAM VOWEL SIGN UE
aa33 CHAM CONSONANT SIGN YA
aa34 CHAM CONSONANT SIGN RA
aa35 CHAM CONSONANT SIGN LA
aa36 CHAM CONSONANT SIGN WA
aa43 CHAM CONSONANT SIGN FINAL NG
aa4c CHAM CONSONANT SIGN FINAL M
aa4d CHAM CONSONANT SIGN FINAL H
aa7b MYANMAR SIGN PAO KAREN TONE
aa7c MYANMAR SIGN TAI LAING TONE-2
aa7d MYANMAR SIGN TAI LAING TONE-5
aab0 TAI VIET MAI KANG
aab2 TAI VIET VOWEL I
aab3 TAI VIET VOWEL UE
aab4 TAI VIET VOWEL U
aab7 TAI VIET MAI KHIT
aab8 TAI VIET VOWEL IA
aabe TAI VIET VOWEL AM
aabf TAI VIET TONE MAI EK
aac1 TAI VIET TONE MAI THO
aaeb MEETEI MAYEK VOWEL SIGN II
aaec MEETEI MAYEK VOWEL SIGN UU
aaed MEETEI MAYEK VOWEL SIGN AAI
aaee MEETEI MAYEK VOWEL SIGN AU
aaef MEETEI MAYEK VOWEL SIGN AAU
aaf5 MEETEI MAYEK VOWEL SIGN VISARGA
aaf6 MEETEI MAYEK VIRAMA
abe3 MEETEI MAYEK VOWEL SIGN ONAP
abe4 MEETEI MAYEK VOWEL SIGN INAP
abe5 MEETEI MAYEK VOWEL SIGN ANAP
abe6 MEETEI MAYEK VOWEL SIGN YENAP
abe7 MEETEI MAYEK VOWEL SIGN SOUNAP
abe8 MEETEI MAYEK VOWEL SIGN UNAP
abe9 MEETEI MAYEK VOWEL SIGN CHEINAP
abea MEETEI MAYEK VOWEL SIGN NUNG
abec MEETEI MAYEK LUM IYEK
abed MEETEI MAYEK APUN IYEK
fb1e HEBREW POINT JUDEO-SPANISH VARIKA
fe00 VARIATION SELECTOR-1
fe01 VARIATION SELECTOR-2
fe02 VARIATION SELECTOR-3
fe03 VARIATION SELECTOR-4
fe04 VARIATION SELECTOR-5
fe05 VARIATION SELECTOR-6
fe06 VARIATION SELECTOR-7
fe07 VARIATION SELECTOR-8
fe08 VARIATION SELECTOR-9
fe09 VARIATION SELECTOR-10
fe0a VARIATION SELECTOR-11
fe0b VARIATION SELECTOR-12
fe0c VARIATION SELECTOR-13
fe0d VARIATION SELECTOR-14
fe0e VARIATION SELECTOR-15
fe0f VARIATION SELECTOR-16
fe20 COMBINING LIGATURE LEFT HALF
fe21 COMBINING LIGATURE RIGHT HALF
fe22 COMBINING DOUBLE TILDE LEFT HALF
fe23 COMBINING DOUBLE TILDE RIGHT HALF
fe24 COMBINING MACRON LEFT HALF
fe25 COMBINING MACRON RIGHT HALF
fe26 COMBINING CONJOINING MACRON
fe27 COMBINING LIGATURE LEFT HALF BELOW
fe28 COMBINING LIGATURE RIGHT HALF BELOW
fe29 COMBINING TILDE LEFT HALF BELOW
fe2a COMBINING TILDE RIGHT HALF BELOW
fe2b COMBINING MACRON LEFT HALF BELOW
fe2c COMBINING MACRON RIGHT HALF BELOW
fe2d COMBINING CONJOINING MACRON BELOW
fe2e COMBINING CYRILLIC TITLO LEFT HALF
fe2f COMBINING CYRILLIC TITLO RIGHT HALF
feff ZERO WIDTH NO-BREAK SPACE
fff9 INTERLINEAR ANNOTATION ANCHOR
fffa INTERLINEAR ANNOTATION SEPARATOR
fffb INTERLINEAR ANNOTATION TERMINATOR
101fd PHAISTOS DISC SIGN COMBINING OBLIQUE STROKE
102e0 COPTIC EPACT THOUSANDS MARK
10376 COMBINING OLD PERMIC LETTER AN
10377 COMBINING OLD PERMIC LETTER DOI
10378 COMBINING OLD PERMIC LETTER ZATA
10379 COMBINING OLD PERMIC LETTER NENOE
1037a COMBINING OLD PERMIC LETTER SII
10a01 KHAROSHTHI VOWEL SIGN I
10a02 KHAROSHTHI VOWEL SIGN U
10a03 KHAROSHTHI VOWEL SIGN VOCALIC R
10a05 KHAROSHTHI VOWEL SIGN E
10a06 KHAROSHTHI VOWEL SIGN O
10a0c KHAROSHTHI VOWEL LENGTH MARK
10a0d KHAROSHTHI SIGN DOUBLE RING BELOW
10a0e KHAROSHTHI SIGN ANUSVARA
10a0f KHAROSHTHI SIGN VISARGA
10a38 KHAROSHTHI SIGN BAR ABOVE
10a39 KHAROSHTHI SIGN CAUDA
10a3a KHAROSHTHI SIGN DOT BELOW
10a3f KHAROSHTHI VIRAMA
10ae5 MANICHAEAN ABBREVIATION MARK ABOVE
10ae6 MANICHAEAN ABBREVIATION MARK BELOW
10d24 HANIFI ROHINGYA SIGN HARBAHAY
10d25 HANIFI ROHINGYA SIGN TAHALA
10d26 HANIFI ROHINGYA SIGN TANA
10d27 HANIFI ROHINGYA SIGN TASSI
10eab YEZIDI COMBINING HAMZA MARK
10eac YEZIDI COMBINING MADDA MARK
10f46 SOGDIAN COMBINING DOT BELOW
10f47 SOGDIAN COMBINING TWO DOTS BELOW
10f48 SOGDIAN COMBINING DOT ABOVE
10f49 SOGDIAN COMBINING TWO DOTS ABOVE
10f4a SOGDIAN COMBINING CURVE ABOVE
10f4b SOGDIAN COMBINING CURVE BELOW
10f4c SOGDIAN COMBINING HOOK ABOVE
10f4d SOGDIAN COMBINING HOOK BELOW
10f4e SOGDIAN COMBINING LONG HOOK BELOW
10f4f SOGDIAN COMBINING RESH BELOW
10f50 SOGDIAN COMBINING STROKE BELOW
10f82 OLD UYGHUR COMBINING DOT ABOVE
10f83 OLD UYGHUR COMBINING DOT BELOW
10f84 OLD UYGHUR COMBINING TWO DOTS ABOVE
10f85 OLD UYGHUR COMBINING TWO DOTS BELOW
11000 BRAHMI SIGN CANDRABINDU
11001 BRAHMI SIGN ANUSVARA
11002 BRAHMI SIGN VISARGA
11038 BRAHMI VOWEL SIGN AA
11039 BRAHMI VOWEL SIGN BHATTIPROLU AA
1103a BRAHMI VOWEL SIGN I
1103b BRAHMI VOWEL SIGN II
1103c BRAHMI VOWEL SIGN U
1103d BRAHMI VOWEL SIGN UU
1103e BRAHMI VOWEL SIGN VOCALIC R
1103f BRAHMI VOWEL SIGN VOCALIC RR
11040 BRAHMI VOWEL SIGN VOCALIC L
11041 BRAHMI VOWEL SIGN VOCALIC LL
11042 BRAHMI VOWEL SIGN E
11043 BRAHMI VOWEL SIGN AI
11044 BRAHMI VOWEL SIGN O
11045 BRAHMI VOWEL SIGN AU
11046 BRAHMI VIRAMA
11070 BRAHMI SIGN OLD TAMIL VIRAMA
11073 BRAHMI VOWEL SIGN OLD TAMIL SHORT E
11074 BRAHMI VOWEL SIGN OLD TAMIL SHORT O
1107f BRAHMI NUMBER JOINER
11080 KAITHI SIGN CANDRABINDU
11081 KAITHI SIGN ANUSVARA
11082 KAITHI SIGN VISARGA
110b0 KAITHI VOWEL SIGN AA
110b1 KAITHI VOWEL SIGN I
110b2 KAITHI VOWEL SIGN II
110b3 KAITHI VOWEL SIGN U
110b4 KAITHI VOWEL SIGN UU
110b5 KAITHI VOWEL SIGN E
110b6 KAITHI VOWEL SIGN AI
110b7 KAITHI VOWEL SIGN O
110b8 KAITHI VOWEL SIGN AU
110b9 KAITHI SIGN VIRAMA
110ba KAITHI SIGN NUKTA
110bd KAITHI NUMBER SIGN
110c2 KAITHI VOWEL SIGN VOCALIC R
110cd KAITHI NUMBER SIGN ABOVE
11100 CHAKMA SIGN CANDRABINDU
11101 CHAKMA SIGN ANUSVARA
11102 CHAKMA SIGN VISARGA
11127 CHAKMA VOWEL SIGN A
11128 CHAKMA VOWEL SIGN I
11129 CHAKMA VOWEL SIGN II
1112a CHAKMA VOWEL SIGN U
1112b CHAKMA VOWEL SIGN UU
1112c CHAKMA VOWEL SIGN E
1112d CHAKMA VOWEL SIGN AI
1112e CHAKMA VOWEL SIGN O
1112f CHAKMA VOWEL SIGN AU
11130 CHAKMA VOWEL SIGN OI
11131 CHAKMA O MARK
11132 CHAKMA AU MARK
11133 CHAKMA VIRAMA
11134 CHAKMA MAAYYAA
11145 CHAKMA VOWEL SIGN AA
11146 CHAKMA VOWEL SIGN EI
11173 MAHAJANI SIGN NUKTA
11180 SHARADA SIGN CANDRABINDU
11181 SHARADA SIGN ANUSVARA
11182 SHARADA SIGN VISARGA
111b3 SHARADA VOWEL SIGN AA
111b4 SHARADA VOWEL SIGN I
111b5 SHARADA VOWEL SIGN II
111b6 SHARADA VOWEL SIGN U
111b7 SHARADA VOWEL SIGN UU
111b8 SHARADA VOWEL SIGN VOCALIC R
111b9 SHARADA VOWEL SIGN VOCALIC RR
111ba SHARADA VOWEL SIGN VOCALIC L
111bb SHARADA VOWEL SIGN VOCALIC LL
111bc SHARADA VOWEL SIGN E
111bd SHARADA VOWEL SIGN AI
111be SHARADA VOWEL SIGN O
111bf SHARADA VOWEL SIGN AU
111c0 SHARADA SIGN VIRAMA
111c9 SHARADA SANDHI MARK
111ca SHARADA SIGN NUKTA
111cb SHARADA VOWEL MODIFIER MARK
111cc SHARADA EXTRA SHORT VOWEL MARK
111ce SHARADA VOWEL SIGN PRISHTHAMATRA E
111cf SHARADA SIGN INVERTED CANDRABINDU
1122c KHOJKI VOWEL SIGN AA
1122d KHOJKI VOWEL SIGN I
1122e KHOJKI VOWEL SIGN II
1122f KHOJKI VOWEL SIGN U
11230 KHOJKI VOWEL SIGN E
11231 KHOJKI VOWEL SIGN AI
11232 KHOJKI VOWEL SIGN O
11233 KHOJKI VOWEL SIGN AU
11234 KHOJKI SIGN ANUSVARA
11235 KHOJKI SIGN VIRAMA
11236 KHOJKI SIGN NUKTA
11237 KHOJKI SIGN SHADDA
1123e KHOJKI SIGN SUKUN
112df KHUDAWADI SIGN ANUSVARA
112e0 KHUDAWADI VOWEL SIGN AA
112e1 KHUDAWADI VOWEL SIGN I
112e2 KHUDAWADI VOWEL SIGN II
112e3 KHUDAWADI VOWEL SIGN U
112e4 KHUDAWADI VOWEL SIGN UU
112e5 KHUDAWADI VOWEL SIGN E
112e6 KHUDAWADI VOWEL SIGN AI
112e7 KHUDAWADI VOWEL SIGN O
112e8 KHUDAWADI VOWEL SIGN AU
112e9 KHUDAWADI SIGN NUKTA
112ea KHUDAWADI SIGN VIRAMA
11300 GRANTHA SIGN COMBINING ANUSVARA ABOVE
11301 GRANTHA SIGN CANDRABINDU
11302 GRANTHA SIGN ANUSVARA
11303 GRANTHA SIGN VISARGA
1133b COMBINING BINDU BELOW
1133c GRANTHA SIGN NUKTA
1133e GRANTHA VOWEL SIGN AA
1133f GRANTHA VOWEL SIGN I
11340 GRANTHA VOWEL SIGN II
11341 GRANTHA VOWEL SIGN U
11342 GRANTHA VOWEL SIGN UU
11343 GRANTHA VOWEL SIGN VOCALIC R
11344 GRANTHA VOWEL SIGN VOCALIC RR
11347 GRANTHA VOWEL SIGN EE
11348 GRANTHA VOWEL SIGN AI
1134b GRANTHA VOWEL SIGN OO
1134c GRANTHA VOWEL SIGN AU
1134d GRANTHA SIGN VIRAMA
11357 GRANTHA AU LENGTH MARK
11362 GRANTHA VOWEL SIGN VOCALIC L
11363 GRANTHA VOWEL SIGN VOCALIC LL
11366 COMBINING GRANTHA DIGIT ZERO
11367 COMBINING GRANTHA DIGIT ONE
11368 COMBINING GRANTHA DIGIT TWO
11369 COMBINING GRANTHA DIGIT THREE
1136a COMBINING GRANTHA DIGIT FOUR
1136b COMBINING GRANTHA DIGIT FIVE
1136c COMBINING GRANTHA DIGIT SIX
11370 COMBINING GRANTHA LETTER A
11371 COMBINING GRANTHA LETTER KA
11372 COMBINING GRANTHA LETTER NA
11373 COMBINING GRANTHA LETTER VI
11374 COMBINING GRANTHA LETTER PA
11435 NEWA VOWEL SIGN AA
11436 NEWA VOWEL SIGN I
11437 NEWA VOWEL SIGN II
11438 NEWA VOWEL SIGN U
11439 NEWA VOWEL SIGN UU
1143a NEWA VOWEL SIGN VOCALIC R
1143b NEWA VOWEL SIGN VOCALIC RR
1143c NEWA VOWEL SIGN VOCALIC L
1143d NEWA VOWEL SIGN VOCALIC LL
1143e NEWA VOWEL SIGN E
1143f NEWA VOWEL SIGN AI
11440 NEWA VOWEL SIGN O
11441 NEWA VOWEL SIGN AU
11442 NEWA SIGN VIRAMA
11443 NEWA SIGN CANDRABINDU
11444 NEWA SIGN ANUSVARA
11445 NEWA SIGN VISARGA
11446 NEWA SIGN NUKTA
1145e NEWA SANDHI MARK
114b0 TIRHUTA VOWEL SIGN AA
114b1 TIRHUTA VOWEL SIGN I
114b2 TIRHUTA VOWEL SIGN II
114b3 TIRHUTA VOWEL SIGN U
114b4 TIRHUTA VOWEL SIGN UU
114b5 TIRHUTA VOWEL SIGN VOCALIC R
114b6 TIRHUTA VOWEL SIGN VOCALIC RR
114b7 TIRHUTA VOWEL SIGN VOCALIC L
114b8 TIRHUTA VOWEL SIGN VOCALIC LL
114b9 TIRHUTA VOWEL SIGN E
114ba TIRHUTA VOWEL SIGN SHORT E
114bb TIRHUTA VOWEL SIGN AI
114bc TIRHUTA VOWEL SIGN O
114bd TIRHUTA VOWEL SIGN SHORT O
114be TIRHUTA VOWEL SIGN AU
114bf TIRHUTA SIGN CANDRABINDU
114c0 TIRHUTA SIGN ANUSVARA
114c1 TIRHUTA SIGN VISARGA
114c2 TIRHUTA SIGN VIRAMA
114c3 TIRHUTA SIGN NUKTA
115af SIDDHAM VOWEL SIGN AA
115b0 SIDDHAM VOWEL SIGN I
115b1 SIDDHAM VOWEL SIGN II
115b2 SIDDHAM VOWEL SIGN U
115b3 SIDDHAM VOWEL SIGN UU
115b4 SIDDHAM VOWEL SIGN VOCALIC R
115b5 SIDDHAM VOWEL SIGN VOCALIC RR
115b8 SIDDHAM VOWEL SIGN E
115b9 SIDDHAM VOWEL SIGN AI
115ba SIDDHAM VOWEL SIGN O
115bb SIDDHAM VOWEL SIGN AU
115bc SIDDHAM SIGN CANDRABINDU
115bd SIDDHAM SIGN ANUSVARA
115be SIDDHAM SIGN VISARGA
115bf SIDDHAM SIGN VIRAMA
115c0 SIDDHAM SIGN NUKTA
115dc SIDDHAM VOWEL SIGN ALTERNATE U
115dd SIDDHAM VOWEL SIGN ALTERNATE UU
11630 MODI VOWEL SIGN AA
11631 MODI VOWEL SIGN I
11632 MODI VOWEL SIGN II
11633 MODI VOWEL SIGN U
11634 MODI VOWEL SIGN UU
11635 MODI VOWEL SIGN VOCALIC R
11636 MODI VOWEL SIGN VOCALIC RR
11637 MODI VOWEL SIGN VOCALIC L
11638 MODI VOWEL SIGN VOCALIC LL
11639 MODI VOWEL SIGN E
1163a MODI VOWEL SIGN AI
1163b MODI VOWEL SIGN O
1163c MODI VOWEL SIGN AU
1163d MODI SIGN ANUSVARA
1163e MODI SIGN VISARGA
1163f MODI SIGN VIRAMA
11640 MODI SIGN ARDHACANDRA
116ab TAKRI SIGN ANUSVARA
116ac TAKRI SIGN VISARGA
116ad TAKRI VOWEL SIGN AA
116ae TAKRI VOWEL SIGN I
116af TAKRI VOWEL SIGN II
116b0 TAKRI VOWEL SIGN U
116b1 TAKRI VOWEL SIGN UU
116b2 TAKRI VOWEL SIGN E
116b3 TAKRI VOWEL SIGN AI
116b4 TAKRI VOWEL SIGN O
116b5 TAKRI VOWEL SIGN AU
116b6 TAKRI SIGN VIRAMA
116b7 TAKRI SIGN NUKTA
1171d AHOM CONSONANT SIGN MEDIAL LA
1171e AHOM CONSONANT SIGN MEDIAL RA
1171f AHOM CONSONANT SIGN MEDIAL LIGATING RA
11720 AHOM VOWEL SIGN A
11721 AHOM VOWEL SIGN AA
11722 AHOM VOWEL SIGN I
11723 AHOM VOWEL SIGN II
11724 AHOM VOWEL SIGN U
11725 AHOM VOWEL SIGN UU
11726 AHOM VOWEL SIGN E
11727 AHOM VOWEL SIGN AW
11728 AHOM VOWEL SIGN O
11729 AHOM VOWEL SIGN AI
1172a AHOM VOWEL SIGN AM
1172b AHOM SIGN KILLER
1182c DOGRA VOWEL SIGN AA
1182d DOGRA VOWEL SIGN I
1182e DOGRA VOWEL SIGN II
1182f DOGRA VOWEL SIGN U
11830 DOGRA VOWEL SIGN UU
11831 DOGRA VOWEL SIGN VOCALIC R
11832 DOGRA VOWEL SIGN VOCALIC RR
11833 DOGRA VOWEL SIGN E
11834 DOGRA VOWEL SIGN AI
11835 DOGRA VOWEL SIGN O
11836 DOGRA VOWEL SIGN AU
11837 DOGRA SIGN ANUSVARA
11838 DOGRA SIGN VISARGA
11839 DOGRA SIGN VIRAMA
1183a DOGRA SIGN NUKTA
11930 DIVES AKURU VOWEL SIGN AA
11931 DIVES AKURU VOWEL SIGN I
11932 DIVES AKURU VOWEL SIGN II
11933 DIVES AKURU VOWEL SIGN U
11934 DIVES AKURU VOWEL SIGN UU
11935 DIVES AKURU VOWEL SIGN E
11937 DIVES AKURU VOWEL SIGN AI
11938 DIVES AKURU VOWEL SIGN O
1193b DIVES AKURU SIGN ANUSVARA
1193c DIVES AKURU SIGN CANDRABINDU
1193d DIVES AKURU SIGN HALANTA
1193e DIVES AKURU VIRAMA
11940 DIVES AKURU MEDIAL YA
11942 DIVES AKURU MEDIAL RA
11943 DIVES AKURU SIGN NUKTA
119d1 NANDINAGARI VOWEL SIGN AA
119d2 NANDINAGARI VOWEL SIGN I
119d3 NANDINAGARI VOWEL SIGN II
119d4 NANDINAGARI VOWEL SIGN U
119d5 NANDINAGARI VOWEL SIGN UU
119d6 NANDINAGARI VOWEL SIGN VOCALIC R
119d7 NANDINAGARI VOWEL SIGN VOCALIC RR
119da NANDINAGARI VOWEL SIGN E
119db NANDINAGARI VOWEL SIGN AI
119dc NANDINAGARI VOWEL SIGN O
119dd NANDINAGARI VOWEL SIGN AU
119de NANDINAGARI SIGN ANUSVARA
119df NANDINAGARI SIGN VISARGA
119e0 NANDINAGARI SIGN VIRAMA
119e4 NANDINAGARI VOWEL SIGN PRISHTHAMATRA E
11a01 ZANABAZAR SQUARE VOWEL SIGN I
11a02 ZANABAZAR SQUARE VOWEL SIGN UE
11a03 ZANABAZAR SQUARE VOWEL SIGN U
11a04 ZANABAZAR SQUARE VOWEL SIGN E
11a05 ZANABAZAR SQUARE VOWEL SIGN OE
11a06 ZANABAZAR SQUARE VOWEL SIGN O
11a07 ZANABAZAR SQUARE VOWEL SIGN AI
11a08 ZANABAZAR SQUARE VOWEL SIGN AU
11a09 ZANABAZAR SQUARE VOWEL SIGN REVERSED I
11a0a ZANABAZAR SQUARE VOWEL LENGTH MARK
11a33 ZANABAZAR SQUARE FINAL CONSONANT MARK
11a34 ZANABAZAR SQUARE SIGN VIRAMA
11a35 ZANABAZAR SQUARE SIGN CANDRABINDU
11a36 ZANABAZAR SQUARE SIGN CANDRABINDU WITH ORNAMENT
11a37 ZANABAZAR SQUARE SIGN CANDRA WITH ORNAMENT
11a38 ZANABAZAR SQUARE SIGN ANUSVARA
11a39 ZANABAZAR SQUARE SIGN VISARGA
11a3b ZANABAZAR SQUARE CLUSTER-FINAL LETTER YA
11a3c ZANABAZAR SQUARE CLUSTER-FINAL LETTER RA
11a3d ZANABAZAR SQUARE CLUSTER-FINAL LETTER LA
11a3e ZANABAZAR SQUARE CLUSTER-FINAL LETTER VA
11a47 ZANABAZAR SQUARE SUBJOINER
11a51 SOYOMBO VOWEL SIGN I
11a52 SOYOMBO VOWEL SIGN UE
11a53 SOYOMBO VOWEL SIGN U
11a54 SOYOMBO VOWEL SIGN E
11a55 SOYOMBO VOWEL SIGN O
11a56 SOYOMBO VOWEL SIGN OE
11a57 SOYOMBO VOWEL SIGN AI
11a58 SOYOMBO VOWEL SIGN AU
11a59 SOYOMBO VOWEL SIGN VOCALIC R
11a5a SOYOMBO VOWEL SIGN VOCALIC L
11a5b SOYOMBO VOWEL LENGTH MARK
11a8a SOYOMBO FINAL CONSONANT SIGN G
11a8b SOYOMBO FINAL CONSONANT SIGN K
11a8c SOYOMBO FINAL CONSONANT SIGN NG
11a8d SOYOMBO FINAL CONSONANT SIGN D
11a8e SOYOMBO FINAL CONSONANT SIGN N
11a8f SOYOMBO FINAL CONSONANT SIGN B
11a90 SOYOMBO FINAL CONSONANT SIGN M
11a91 SOYOMBO FINAL CONSONANT SIGN R
11a92 SOYOMBO FINAL CONSONANT SIGN L
11a93 SOYOMBO FINAL CONSONANT SIGN SH
11a94 SOYOMBO FINAL CONSONANT SIGN S
11a95 SOYOMBO FINAL CONSONANT SIGN -A
11a96 SOYOMBO SIGN ANUSVARA
11a97 SOYOMBO SIGN VISARGA
11a98 SOYOMBO GEMINATION MARK
11a99 SOYOMBO SUBJOINER
11c2f BHAIKSUKI VOWEL SIGN AA
11c30 BHAIKSUKI VOWEL SIGN I
11c31 BHAIKSUKI VOWEL SIGN II
11c32 BHAIKSUKI VOWEL SIGN U
11c33 BHAIKSUKI VOWEL SIGN UU
11c34 BHAIKSUKI VOWEL SIGN VOCALIC R
11c35 BHAIKSUKI VOWEL SIGN VOCALIC RR
11c36 BHAIKSUKI VOWEL SIGN VOCALIC L
11c38 BHAIKSUKI VOWEL SIGN E
11c39 BHAIKSUKI VOWEL SIGN AI
11c3a BHAIKSUKI VOWEL SIGN O
11c3b BHAIKSUKI VOWEL SIGN AU
11c3c BHAIKSUKI SIGN CANDRABINDU
11c3d BHAIKSUKI SIGN ANUSVARA
11c3e BHAIKSUKI SIGN VISARGA
11c3f BHAIKSUKI SIGN VIRAMA
11c92 MARCHEN SUBJOINED LETTER KA
11c93 MARCHEN SUBJOINED LETTER KHA
11c94 MARCHEN SUBJOINED LETTER GA
11c95 MARCHEN SUBJOINED LETTER NGA
11c96 MARCHEN SUBJOINED LETTER CA
11c97 MARCHEN SUBJOINED LETTER CHA
11c98 MARCHEN SUBJOINED LETTER JA
11c99 MARCHEN SUBJOINED LETTER NYA
11c9a MARCHEN SUBJOINED LETTER TA
11c9b MARCHEN SUBJOINED LETTER THA
11c9c MARCHEN SUBJOINED LETTER DA
11c9d MARCHEN SUBJOINED LETTER NA
11c9e MARCHEN SUBJOINED LETTER PA
11c9f MARCHEN SUBJOINED LETTER PHA
11ca0 MARCHEN SUBJOINED LETTER BA
11ca1 MARCHEN SUBJOINED LETTER MA
11ca2 MARCHEN SUBJOINED LETTER TSA
11ca3 MARCHEN SUBJOINED LETTER TSHA
11ca4 MARCHEN SUBJOINED LETTER DZA
11ca5 MARCHEN SUBJOINED LETTER WA
11ca6 MARCHEN SUBJOINED LETTER ZHA
11ca7 MARCHEN SUBJOINED LETTER ZA
11ca9 MARCHEN SUBJOINED LETTER YA
11caa MARCHEN SUBJOINED LETTER RA
11cab MARCHEN SUBJOINED LETTER LA
11cac MARCHEN SUBJOINED LETTER SHA
11cad MARCHEN SUBJOINED LETTER SA
11cae MARCHEN SUBJOINED LETTER HA
11caf MARCHEN SUBJOINED LETTER A
11cb0 MARCHEN VOWEL SIGN AA
11cb1 MARCHEN VOWEL SIGN I
11cb2 MARCHEN VOWEL SIGN U
11cb3 MARCHEN VOWEL SIGN E
11cb4 MARCHEN VOWEL SIGN O
11cb5 MARCHEN SIGN ANUSVARA
11cb6 MARCHEN SIGN CANDRABINDU
11d31 MASARAM GONDI VOWEL SIGN AA
11d32 MASARAM GONDI VOWEL SIGN I
11d33 MASARAM GONDI VOWEL SIGN II
11d34 MASARAM GONDI VOWEL SIGN U
11d35 MASARAM GONDI VOWEL SIGN UU
11d36 MASARAM GONDI VOWEL SIGN VOCALIC R
11d3a MASARAM GONDI VOWEL SIGN E
11d3c MASARAM GONDI VOWEL SIGN AI
11d3d MASARAM GONDI VOWEL SIGN O
11d3f MASARAM GONDI VOWEL SIGN AU
11d40 MASARAM GONDI SIGN ANUSVARA
11d41 MASARAM GONDI SIGN VISARGA
11d42 MASARAM GONDI SIGN NUKTA
11d43 MASARAM GONDI SIGN CANDRA
11d44 MASARAM GONDI SIGN HALANTA
11d45 MASARAM GONDI VIRAMA
11d47 MASARAM GONDI RA-KARA
11d8a GUNJALA GONDI VOWEL SIGN AA
11d8b GUNJALA GONDI VOWEL SIGN I
11d8c GUNJALA GONDI VOWEL SIGN II
11d8d GUNJALA GONDI VOWEL SIGN U
11d8e GUNJALA GONDI VOWEL SIGN UU
11d90 GUNJALA GONDI VOWEL SIGN EE
11d91 GUNJALA GONDI VOWEL SIGN AI
11d93 GUNJALA GONDI VOWEL SIGN OO
11d94 GUNJALA GONDI VOWEL SIGN AU
11d95 GUNJALA GONDI SIGN ANUSVARA
11d96 GUNJALA GONDI SIGN VISARGA
11d97 GUNJALA GONDI VIRAMA
11ef3 MAKASAR VOWEL SIGN I
11ef4 MAKASAR VOWEL SIGN U
11ef5 MAKASAR VOWEL SIGN E
11ef6 MAKASAR VOWEL SIGN O
13430 EGYPTIAN HIEROGLYPH VERTICAL JOINER
13431 EGYPTIAN HIEROGLYPH HORIZONTAL JOINER
13432 EGYPTIAN HIEROGLYPH INSERT AT TOP START
13433 EGYPTIAN HIEROGLYPH INSERT AT BOTTOM START
13434 EGYPTIAN HIEROGLYPH INSERT AT TOP END
13435 EGYPTIAN HIEROGLYPH INSERT AT BOTTOM END
13436 EGYPTIAN HIEROGLYPH OVERLAY MIDDLE
13437 EGYPTIAN HIEROGLYPH BEGIN SEGMENT
13438 EGYPTIAN HIEROGLYPH END SEGMENT
16af0 BASSA VAH COMBINING HIGH TONE
16af1 BASSA VAH COMBINING LOW TONE
16af2 BASSA VAH COMBINING MID TONE
16af3 BASSA VAH COMBINING LOW-MID TONE
16af4 BASSA VAH COMBINING HIGH-LOW TONE
16b30 PAHAWH HMONG MARK CIM TUB
16b31 PAHAWH HMONG MARK CIM SO
16b32 PAHAWH HMONG MARK CIM KES
16b33 PAHAWH HMONG MARK CIM KHAV
16b34 PAHAWH HMONG MARK CIM SUAM
16b35 PAHAWH HMONG MARK CIM HOM
16b36 PAHAWH HMONG MARK CIM TAUM
16f4f MIAO SIGN CONSONANT MODIFIER BAR
16f51 MIAO SIGN ASPIRATION
16f52 MIAO SIGN REFORMED VOICING
16f53 MIAO SIGN REFORMED ASPIRATION
16f54 MIAO VOWEL SIGN A
16f55 MIAO VOWEL SIGN AA
16f56 MIAO VOWEL SIGN AHH
16f57 MIAO VOWEL SIGN AN
16f58 MIAO VOWEL SIGN ANG
16f59 MIAO VOWEL SIGN O
16f5a MIAO VOWEL SIGN OO
16f5b MIAO VOWEL SIGN WO
16f5c MIAO VOWEL SIGN W
16f5d MIAO VOWEL SIGN E
16f5e MIAO VOWEL SIGN EN
16f5f MIAO VOWEL SIGN ENG
16f60 MIAO VOWEL SIGN OEY
16f61 MIAO VOWEL SIGN I
16f62 MIAO VOWEL SIGN IA
16f63 MIAO VOWEL SIGN IAN
16f64 MIAO VOWEL SIGN IANG
16f65 MIAO VOWEL SIGN IO
16f66 MIAO VOWEL SIGN IE
16f67 MIAO VOWEL SIGN II
16f68 MIAO VOWEL SIGN IU
16f69 MIAO VOWEL SIGN ING
16f6a MIAO VOWEL SIGN U
16f6b MIAO VOWEL SIGN UA
16f6c MIAO VOWEL SIGN UAN
16f6d MIAO VOWEL SIGN UANG
16f6e MIAO VOWEL SIGN UU
16f6f MIAO VOWEL SIGN UEI
16f70 MIAO VOWEL SIGN UNG
16f71 MIAO VOWEL SIGN Y
16f72 MIAO VOWEL SIGN YI
16f73 MIAO VOWEL SIGN AE
16f74 MIAO VOWEL SIGN AEE
16f75 MIAO VOWEL SIGN ERR
16f76 MIAO VOWEL SIGN ROUNDED ERR
16f77 MIAO VOWEL SIGN ER
16f78 MIAO VOWEL SIGN ROUNDED ER
16f79 MIAO VOWEL SIGN AI
16f7a MIAO VOWEL SIGN EI
16f7b MIAO VOWEL SIGN AU
16f7c MIAO VOWEL SIGN OU
16f7d MIAO VOWEL SIGN N
16f7e MIAO VOWEL SIGN NG
16f7f MIAO VOWEL SIGN UOG
16f80 MIAO VOWEL SIGN YUI
16f81 MIAO VOWEL SIGN OG
16f82 MIAO VOWEL SIGN OER
16f83 MIAO VOWEL SIGN VW
16f84 MIAO VOWEL SIGN IG
16f85 MIAO VOWEL SIGN EA
16f86 MIAO VOWEL SIGN IONG
16f87 MIAO VOWEL SIGN UI
16f8f MIAO TONE RIGHT
16f90 MIAO TONE TOP RIGHT
16f91 MIAO TONE ABOVE
16f92 MIAO TONE BELOW
16fe4 KHITAN SMALL SCRIPT FILLER
16ff0 VIETNAMESE ALTERNATE READING MARK CA
16ff1 VIETNAMESE ALTERNATE READING MARK NHAY
1bc9d DUPLOYAN THICK LETTER SELECTOR
1bc9e DUPLOYAN DOUBLE MARK
1bca0 SHORTHAND FORMAT LETTER OVERLAP
1bca1 SHORTHAND FORMAT CONTINUING OVERLAP
1bca2 SHORTHAND FORMAT DOWN STEP
1bca3 SHORTHAND FORMAT UP STEP
1cf00 ZNAMENNY COMBINING MARK GORAZDO NIZKO S KRYZHEM ON LEFT
1cf01 ZNAMENNY COMBINING MARK NIZKO S KRYZHEM ON LEFT
1cf02 ZNAMENNY COMBINING MARK TSATA ON LEFT
1cf03 ZNAMENNY COMBINING MARK GORAZDO NIZKO ON LEFT
1cf04 ZNAMENNY COMBINING MARK NIZKO ON LEFT
1cf05 ZNAMENNY COMBINING MARK SREDNE ON LEFT
1cf06 ZNAMENNY COMBINING MARK MALO POVYSHE ON LEFT
1cf07 ZNAMENNY COMBINING MARK POVYSHE ON LEFT
1cf08 ZNAMENNY COMBINING MARK VYSOKO ON LEFT
1cf09 ZNAMENNY COMBINING MARK MALO POVYSHE S KHOKHLOM ON LEFT
1cf0a ZNAMENNY COMBINING MARK POVYSHE S KHOKHLOM ON LEFT
1cf0b ZNAMENNY COMBINING MARK VYSOKO S KHOKHLOM ON LEFT
1cf0c ZNAMENNY COMBINING MARK GORAZDO NIZKO S KRYZHEM ON RIGHT
1cf0d ZNAMENNY COMBINING MARK NIZKO S KRYZHEM ON RIGHT
1cf0e ZNAMENNY COMBINING MARK TSATA ON RIGHT
1cf0f ZNAMENNY COMBINING MARK GORAZDO NIZKO ON RIGHT
1cf10 ZNAMENNY COMBINING MARK NIZKO ON RIGHT
1cf11 ZNAMENNY COMBINING MARK SREDNE ON RIGHT
1cf12 ZNAMENNY COMBINING MARK MALO POVYSHE ON RIGHT
1cf13 ZNAMENNY COMBINING MARK POVYSHE ON RIGHT
1cf14 ZNAMENNY COMBINING MARK VYSOKO ON RIGHT
1cf15 ZNAMENNY COMBINING MARK MALO POVYSHE S KHOKHLOM ON RIGHT
1cf16 ZNAMENNY COMBINING MARK POVYSHE S KHOKHLOM ON RIGHT
1cf17 ZNAMENNY COMBINING MARK VYSOKO S KHOKHLOM ON RIGHT
1cf18 ZNAMENNY COMBINING MARK TSATA S KRYZHEM
1cf19 ZNAMENNY COMBINING MARK MALO POVYSHE S KRYZHEM
1cf1a ZNAMENNY COMBINING MARK STRANNO MALO POVYSHE
1cf1b ZNAMENNY COMBINING MARK POVYSHE S KRYZHEM
1cf1c ZNAMENNY COMBINING MARK POVYSHE STRANNO
1cf1d ZNAMENNY COMBINING MARK VYSOKO S KRYZHEM
1cf1e ZNAMENNY COMBINING MARK MALO POVYSHE STRANNO
1cf1f ZNAMENNY COMBINING MARK GORAZDO VYSOKO
1cf20 ZNAMENNY COMBINING MARK ZELO
1cf21 ZNAMENNY COMBINING MARK ON
1cf22 ZNAMENNY COMBINING MARK RAVNO
1cf23 ZNAMENNY COMBINING MARK TIKHAYA
1cf24 ZNAMENNY COMBINING MARK BORZAYA
1cf25 ZNAMENNY COMBINING MARK UDARKA
1cf26 ZNAMENNY COMBINING MARK PODVERTKA
1cf27 ZNAMENNY COMBINING MARK LOMKA
1cf28 ZNAMENNY COMBINING MARK KUPNAYA
1cf29 ZNAMENNY COMBINING MARK KACHKA
1cf2a ZNAMENNY COMBINING MARK ZEVOK
1cf2b ZNAMENNY COMBINING MARK SKOBA
1cf2c ZNAMENNY COMBINING MARK RAZSEKA
1cf2d ZNAMENNY COMBINING MARK KRYZH ON LEFT
1cf30 ZNAMENNY COMBINING TONAL RANGE MARK MRACHNO
1cf31 ZNAMENNY COMBINING TONAL RANGE MARK SVETLO
1cf32 ZNAMENNY COMBINING TONAL RANGE MARK TRESVETLO
1cf33 ZNAMENNY COMBINING MARK ZADERZHKA
1cf34 ZNAMENNY COMBINING MARK DEMESTVENNY ZADERZHKA
1cf35 ZNAMENNY COMBINING MARK OTSECHKA
1cf36 ZNAMENNY COMBINING MARK PODCHASHIE
1cf37 ZNAMENNY COMBINING MARK PODCHASHIE WITH VERTICAL STROKE
1cf38 ZNAMENNY COMBINING MARK CHASHKA
1cf39 ZNAMENNY COMBINING MARK CHASHKA POLNAYA
1cf3a ZNAMENNY COMBINING MARK OBLACHKO
1cf3b ZNAMENNY COMBINING MARK SOROCHYA NOZHKA
1cf3c ZNAMENNY COMBINING MARK TOCHKA
1cf3d ZNAMENNY COMBINING MARK DVOETOCHIE
1cf3e ZNAMENNY COMBINING ATTACHING VERTICAL OMET
1cf3f ZNAMENNY COMBINING MARK CURVED OMET
1cf40 ZNAMENNY COMBINING MARK KRYZH
1cf41 ZNAMENNY COMBINING LOWER TONAL RANGE INDICATOR
1cf42 ZNAMENNY PRIZNAK MODIFIER LEVEL-2
1cf43 ZNAMENNY PRIZNAK MODIFIER LEVEL-3
1cf44 ZNAMENNY PRIZNAK MODIFIER DIRECTION FLIP
1cf45 ZNAMENNY PRIZNAK MODIFIER KRYZH
1cf46 ZNAMENNY PRIZNAK MODIFIER ROG
1d165 MUSICAL SYMBOL COMBINING STEM
1d166 MUSICAL SYMBOL COMBINING SPRECHGESANG STEM
1d167 MUSICAL SYMBOL COMBINING TREMOLO-1
1d168 MUSICAL SYMBOL COMBINING TREMOLO-2
1d169 MUSICAL SYMBOL COMBINING TREMOLO-3
1d16d MUSICAL SYMBOL COMBINING AUGMENTATION DOT
1d16e MUSICAL SYMBOL COMBINING FLAG-1
1d16f MUSICAL SYMBOL COMBINING FLAG-2
1d170 MUSICAL SYMBOL COMBINING FLAG-3
1d171 MUSICAL SYMBOL COMBINING FLAG-4
1d172 MUSICAL SYMBOL COMBINING FLAG-5
1d173 MUSICAL SYMBOL BEGIN BEAM
1d174 MUSICAL SYMBOL END BEAM
1d175 MUSICAL SYMBOL BEGIN TIE
1d176 MUSICAL SYMBOL END TIE
1d177 MUSICAL SYMBOL BEGIN SLUR
1d178 MUSICAL SYMBOL END SLUR
1d179 MUSICAL SYMBOL BEGIN PHRASE
1d17a MUSICAL SYMBOL END PHRASE
1d17b MUSICAL SYMBOL COMBINING ACCENT
1d17c MUSICAL SYMBOL COMBINING STACCATO
1d17d MUSICAL SYMBOL COMBINING TENUTO
1d17e MUSICAL SYMBOL COMBINING STACCATISSIMO
1d17f MUSICAL SYMBOL COMBINING MARCATO
1d180 MUSICAL SYMBOL COMBINING MARCATO-STACCATO
1d181 MUSICAL SYMBOL COMBINING ACCENT-STACCATO
1d182 MUSICAL SYMBOL COMBINING LOURE
1d185 MUSICAL SYMBOL COMBINING DOIT
1d186 MUSICAL SYMBOL COMBINING RIP
1d187 MUSICAL SYMBOL COMBINING FLIP
1d188 MUSICAL SYMBOL COMBINING SMEAR
1d189 MUSICAL SYMBOL COMBINING BEND
1d18a MUSICAL SYMBOL COMBINING DOUBLE TONGUE
1d18b MUSICAL SYMBOL COMBINING TRIPLE TONGUE
1d1aa MUSICAL SYMBOL COMBINING DOWN BOW
1d1ab MUSICAL SYMBOL COMBINING UP BOW
1d1ac MUSICAL SYMBOL COMBINING HARMONIC
1d1ad MUSICAL SYMBOL COMBINING SNAP PIZZICATO
1d242 COMBINING GREEK MUSICAL TRISEME
1d243 COMBINING GREEK MUSICAL TETRASEME
1d244 COMBINING GREEK MUSICAL PENTASEME
1da00 SIGNWRITING HEAD RIM
1da01 SIGNWRITING HEAD MOVEMENT-WALLPLANE STRAIGHT
1da02 SIGNWRITING HEAD MOVEMENT-WALLPLANE TILT
1da03 SIGNWRITING HEAD MOVEMENT-FLOORPLANE STRAIGHT
1da04 SIGNWRITING HEAD MOVEMENT-WALLPLANE CURVE
1da05 SIGNWRITING HEAD MOVEMENT-FLOORPLANE CURVE
1da06 SIGNWRITING HEAD MOVEMENT CIRCLE
1da07 SIGNWRITING FACE DIRECTION POSITION NOSE FORWARD TILTING
1da08 SIGNWRITING FACE DIRECTION POSITION NOSE UP OR DOWN
1da09 SIGNWRITING FACE DIRECTION POSITION NOSE UP OR DOWN TILTING
1da0a SIGNWRITING EYEBROWS STRAIGHT UP
1da0b SIGNWRITING EYEBROWS STRAIGHT NEUTRAL
1da0c SIGNWRITING EYEBROWS STRAIGHT DOWN
1da0d SIGNWRITING DREAMY EYEBROWS NEUTRAL DOWN
1da0e SIGNWRITING DREAMY EYEBROWS DOWN NEUTRAL
1da0f SIGNWRITING DREAMY EYEBROWS UP NEUTRAL
1da10 SIGNWRITING DREAMY EYEBROWS NEUTRAL UP
1da11 SIGNWRITING FOREHEAD NEUTRAL
1da12 SIGNWRITING FOREHEAD CONTACT
1da13 SIGNWRITING FOREHEAD WRINKLED
1da14 SIGNWRITING EYES OPEN
1da15 SIGNWRITING EYES SQUEEZED
1da16 SIGNWRITING EYES CLOSED
1da17 SIGNWRITING EYE BLINK SINGLE
1da18 SIGNWRITING EYE BLINK MULTIPLE
1da19 SIGNWRITING EYES HALF OPEN
1da1a SIGNWRITING EYES WIDE OPEN
1da1b SIGNWRITING EYES HALF CLOSED
1da1c SIGNWRITING EYES WIDENING MOVEMENT
1da1d SIGNWRITING EYE WINK
1da1e SIGNWRITING EYELASHES UP
1da1f SIGNWRITING EYELASHES DOWN
1da20 SIGNWRITING EYELASHES FLUTTERING
1da21 SIGNWRITING EYEGAZE-WALLPLANE STRAIGHT
1da22 SIGNWRITING EYEGAZE-WALLPLANE STRAIGHT DOUBLE
1da23 SIGNWRITING EYEGAZE-WALLPLANE STRAIGHT ALTERNATING
1da24 SIGNWRITING EYEGAZE-FLOORPLANE STRAIGHT
1da25 SIGNWRITING EYEGAZE-FLOORPLANE STRAIGHT DOUBLE
1da26 SIGNWRITING EYEGAZE-FLOORPLANE STRAIGHT ALTERNATING
1da27 SIGNWRITING EYEGAZE-WALLPLANE CURVED
1da28 SIGNWRITING EYEGAZE-FLOORPLANE CURVED
1da29 SIGNWRITING EYEGAZE-WALLPLANE CIRCLING
1da2a SIGNWRITING CHEEKS PUFFED
1da2b SIGNWRITING CHEEKS NEUTRAL
1da2c SIGNWRITING CHEEKS SUCKED
1da2d SIGNWRITING TENSE CHEEKS HIGH
1da2e SIGNWRITING TENSE CHEEKS MIDDLE
1da2f SIGNWRITING TENSE CHEEKS LOW
1da30 SIGNWRITING EARS
1da31 SIGNWRITING NOSE NEUTRAL
1da32 SIGNWRITING NOSE CONTACT
1da33 SIGNWRITING NOSE WRINKLES
1da34 SIGNWRITING NOSE WIGGLES
1da35 SIGNWRITING AIR BLOWING OUT
1da36 SIGNWRITING AIR SUCKING IN
1da3b SIGNWRITING MOUTH CLOSED NEUTRAL
1da3c SIGNWRITING MOUTH CLOSED FORWARD
1da3d SIGNWRITING MOUTH CLOSED CONTACT
1da3e SIGNWRITING MOUTH SMILE
1da3f SIGNWRITING MOUTH SMILE WRINKLED
1da40 SIGNWRITING MOUTH SMILE OPEN
1da41 SIGNWRITING MOUTH FROWN
1da42 SIGNWRITING MOUTH FROWN WRINKLED
1da43 SIGNWRITING MOUTH FROWN OPEN
1da44 SIGNWRITING MOUTH OPEN CIRCLE
1da45 SIGNWRITING MOUTH OPEN FORWARD
1da46 SIGNWRITING MOUTH OPEN WRINKLED
1da47 SIGNWRITING MOUTH OPEN OVAL
1da48 SIGNWRITING MOUTH OPEN OVAL WRINKLED
1da49 SIGNWRITING MOUTH OPEN OVAL YAWN
1da4a SIGNWRITING MOUTH OPEN RECTANGLE
1da4b SIGNWRITING MOUTH OPEN RECTANGLE WRINKLED
1da4c SIGNWRITING MOUTH OPEN RECTANGLE YAWN
1da4d SIGNWRITING MOUTH KISS
1da4e SIGNWRITING MOUTH KISS FORWARD
1da4f SIGNWRITING MOUTH KISS WRINKLED
1da50 SIGNWRITING MOUTH TENSE
1da51 SIGNWRITING MOUTH TENSE FORWARD
1da52 SIGNWRITING MOUTH TENSE SUCKED
1da53 SIGNWRITING LIPS PRESSED TOGETHER
1da54 SIGNWRITING LIP LOWER OVER UPPER
1da55 SIGNWRITING LIP UPPER OVER LOWER
1da56 SIGNWRITING MOUTH CORNERS
1da57 SIGNWRITING MOUTH WRINKLES SINGLE
1da58 SIGNWRITING MOUTH WRINKLES DOUBLE
1da59 SIGNWRITING TONGUE STICKING OUT FAR
1da5a SIGNWRITING TONGUE LICKING LIPS
1da5b SIGNWRITING TONGUE TIP BETWEEN LIPS
1da5c SIGNWRITING TONGUE TIP TOUCHING INSIDE MOUTH
1da5d SIGNWRITING TONGUE INSIDE MOUTH RELAXED
1da5e SIGNWRITING TONGUE MOVES AGAINST CHEEK
1da5f SIGNWRITING TONGUE CENTRE STICKING OUT
1da60 SIGNWRITING TONGUE CENTRE INSIDE MOUTH
1da61 SIGNWRITING TEETH
1da62 SIGNWRITING TEETH MOVEMENT
1da63 SIGNWRITING TEETH ON TONGUE
1da64 SIGNWRITING TEETH ON TONGUE MOVEMENT
1da65 SIGNWRITING TEETH ON LIPS
1da66 SIGNWRITING TEETH ON LIPS MOVEMENT
1da67 SIGNWRITING TEETH BITE LIPS
1da68 SIGNWRITING MOVEMENT-WALLPLANE JAW
1da69 SIGNWRITING MOVEMENT-FLOORPLANE JAW
1da6a SIGNWRITING NECK
1da6b SIGNWRITING HAIR
1da6c SIGNWRITING EXCITEMENT
1da75 SIGNWRITING UPPER BODY TILTING FROM HIP JOINTS
1da84 SIGNWRITING LOCATION HEAD NECK
1da9b SIGNWRITING FILL MODIFIER-2
1da9c SIGNWRITING FILL MODIFIER-3
1da9d SIGNWRITING FILL MODIFIER-4
1da9e SIGNWRITING FILL MODIFIER-5
1da9f SIGNWRITING FILL MODIFIER-6
1daa1 SIGNWRITING ROTATION MODIFIER-2
1daa2 SIGNWRITING ROTATION MODIFIER-3
1daa3 SIGNWRITING ROTATION MODIFIER-4
1daa4 SIGNWRITING ROTATION MODIFIER-5
1daa5 SIGNWRITING ROTATION MODIFIER-6
1daa6 SIGNWRITING ROTATION MODIFIER-7
1daa7 SIGNWRITING ROTATION MODIFIER-8
1daa8 SIGNWRITING ROTATION MODIFIER-9
1daa9 SIGNWRITING ROTATION MODIFIER-10
1daaa SIGNWRITING ROTATION MODIFIER-11
1daab SIGNWRITING ROTATION MODIFIER-12
1daac SIGNWRITING ROTATION MODIFIER-13
1daad SIGNWRITING ROTATION MODIFIER-14
1daae SIGNWRITING ROTATION MODIFIER-15
1daaf SIGNWRITING ROTATION MODIFIER-16
1e000 COMBINING GLAGOLITIC LETTER AZU
1e001 COMBINING GLAGOLITIC LETTER BUKY
1e002 COMBINING GLAGOLITIC LETTER VEDE
1e003 COMBINING GLAGOLITIC LETTER GLAGOLI
1e004 COMBINING GLAGOLITIC LETTER DOBRO
1e005 COMBINING GLAGOLITIC LETTER YESTU
1e006 COMBINING GLAGOLITIC LETTER ZHIVETE
1e008 COMBINING GLAGOLITIC LETTER ZEMLJA
1e009 COMBINING GLAGOLITIC LETTER IZHE
1e00a COMBINING GLAGOLITIC LETTER INITIAL IZHE
1e00b COMBINING GLAGOLITIC LETTER I
1e00c COMBINING GLAGOLITIC LETTER DJERVI
1e00d COMBINING GLAGOLITIC LETTER KAKO
1e00e COMBINING GLAGOLITIC LETTER LJUDIJE
1e00f COMBINING GLAGOLITIC LETTER MYSLITE
1e010 COMBINING GLAGOLITIC LETTER NASHI
1e011 COMBINING GLAGOLITIC LETTER ONU
1e012 COMBINING GLAGOLITIC LETTER POKOJI
1e013 COMBINING GLAGOLITIC LETTER RITSI
1e014 COMBINING GLAGOLITIC LETTER SLOVO
1e015 COMBINING GLAGOLITIC LETTER TVRIDO
1e016 COMBINING GLAGOLITIC LETTER UKU
1e017 COMBINING GLAGOLITIC LETTER FRITU
1e018 COMBINING GLAGOLITIC LETTER HERU
1e01b COMBINING GLAGOLITIC LETTER SHTA
1e01c COMBINING GLAGOLITIC LETTER TSI
1e01d COMBINING GLAGOLITIC LETTER CHRIVI
1e01e COMBINING GLAGOLITIC LETTER SHA
1e01f COMBINING GLAGOLITIC LETTER YERU
1e020 COMBINING GLAGOLITIC LETTER YERI
1e021 COMBINING GLAGOLITIC LETTER YATI
1e023 COMBINING GLAGOLITIC LETTER YU
1e024 COMBINING GLAGOLITIC LETTER SMALL YUS
1e026 COMBINING GLAGOLITIC LETTER YO
1e027 COMBINING GLAGOLITIC LETTER IOTATED SMALL YUS
1e028 COMBINING GLAGOLITIC LETTER BIG YUS
1e029 COMBINING GLAGOLITIC LETTER IOTATED BIG YUS
1e02a COMBINING GLAGOLITIC LETTER FITA
1e130 NYIAKENG PUACHUE HMONG TONE-B
1e131 NYIAKENG PUACHUE HMONG TONE-M
1e132 NYIAKENG PUACHUE HMONG TONE-J
1e133 NYIAKENG PUACHUE HMONG TONE-V
1e134 NYIAKENG PUACHUE HMONG TONE-S
1e135 NYIAKENG PUACHUE HMONG TONE-G
1e136 NYIAKENG PUACHUE HMONG TONE-D
1e2ae TOTO SIGN RISING TONE
1e2ec WANCHO TONE TUP
1e2ed WANCHO TONE TUPNI
1e2ee WANCHO TONE KOI
1e2ef WANCHO TONE KOINI
1e8d0 MENDE KIKAKUI COMBINING NUMBER TEENS
1e8d1 MENDE KIKAKUI COMBINING NUMBER TENS
1e8d2 MENDE KIKAKUI COMBINING NUMBER HUNDREDS
1e8d3 MENDE KIKAKUI COMBINING NUMBER THOUSANDS
1e8d4 MENDE KIKAKUI COMBINING NUMBER TEN THOUSANDS
1e8d5 MENDE KIKAKUI COMBINING NUMBER HUNDRED THOUSANDS
1e8d6 MENDE KIKAKUI COMBINING NUMBER MILLIONS
1e944 ADLAM ALIF LENGTHENER
1e945 ADLAM VOWEL LENGTHENER
1e946 ADLAM GEMINATION MARK
1e947 ADLAM HAMZA
1e948 ADLAM CONSONANT MODIFIER
1e949 ADLAM GEMINATE CONSONANT MODIFIER
1e94a ADLAM NUKTA
e0001 LANGUAGE TAG
e0020 TAG SPACE
e0021 TAG EXCLAMATION MARK
e0022 TAG QUOTATION MARK
e0023 TAG NUMBER SIGN
e0024 TAG DOLLAR SIGN
e0025 TAG PERCENT SIGN
e0026 TAG AMPERSAND
e0027 TAG APOSTROPHE
e0028 TAG LEFT PARENTHESIS
e0029 TAG RIGHT PARENTHESIS
e002a TAG ASTERISK
e002b TAG PLUS SIGN
e002c TAG COMMA
e002d TAG HYPHEN-MINUS
e002e TAG FULL STOP
e002f TAG SOLIDUS
e0030 TAG DIGIT ZERO
e0031 TAG DIGIT ONE
e0032 TAG DIGIT TWO
e0033 TAG DIGIT THREE
e0034 TAG DIGIT FOUR
e0035 TAG DIGIT FIVE
e0036 TAG DIGIT SIX
e0037 TAG DIGIT SEVEN
e0038 TAG DIGIT EIGHT
e0039 TAG DIGIT NINE
e003a TAG COLON
e003b TAG SEMICOLON
e003c TAG LESS-THAN SIGN
e003d TAG EQUALS SIGN
e003e TAG GREATER-THAN SIGN
e003f TAG QUESTION MARK
e0040 TAG COMMERCIAL AT
e0041 TAG LATIN CAPITAL LETTER A
e0042 TAG LATIN CAPITAL LETTER B
e0043 TAG LATIN CAPITAL LETTER C
e0044 TAG LATIN CAPITAL LETTER D
e0045 TAG LATIN CAPITAL LETTER E
e0046 TAG LATIN CAPITAL LETTER F
e0047 TAG LATIN CAPITAL LETTER G
e0048 TAG LATIN CAPITAL LETTER H
e0049 TAG LATIN CAPITAL LETTER I
e004a TAG LATIN CAPITAL LETTER J
e004b TAG LATIN CAPITAL LETTER K
e004c TAG LATIN CAPITAL LETTER L
e004d TAG LATIN CAPITAL LETTER M
e004e TAG LATIN CAPITAL LETTER N
e004f TAG LATIN CAPITAL LETTER O
e0050 TAG LATIN CAPITAL LETTER P
e0051 TAG LATIN CAPITAL LETTER Q
e0052 TAG LATIN CAPITAL LETTER R
e0053 TAG LATIN CAPITAL LETTER S
e0054 TAG LATIN CAPITAL LETTER T
e0055 TAG LATIN CAPITAL LETTER U
e0056 TAG LATIN CAPITAL LETTER V
e0057 TAG LATIN CAPITAL LETTER W
e0058 TAG LATIN CAPITAL LETTER X
e0059 TAG LATIN CAPITAL LETTER Y
e005a TAG LATIN CAPITAL LETTER Z
e005b TAG LEFT SQUARE BRACKET
e005c TAG REVERSE SOLIDUS
e005d TAG RIGHT SQUARE BRACKET
e005e TAG CIRCUMFLEX ACCENT
e005f TAG LOW LINE
e0060 TAG GRAVE ACCENT
e0061 TAG LATIN SMALL LETTER A
e0062 TAG LATIN SMALL LETTER B
e0063 TAG LATIN SMALL LETTER C
e0064 TAG LATIN SMALL LETTER D
e0065 TAG LATIN SMALL LETTER E
e0066 TAG LATIN SMALL LETTER F
e0067 TAG LATIN SMALL LETTER G
e0068 TAG LATIN SMALL LETTER H
e0069 TAG LATIN SMALL LETTER I
e006a TAG LATIN SMALL LETTER J
e006b TAG LATIN SMALL LETTER K
e006c TAG LATIN SMALL LETTER L
e006d TAG LATIN SMALL LETTER M
e006e TAG LATIN SMALL LETTER N
e006f TAG LATIN SMALL LETTER O
e0070 TAG LATIN SMALL LETTER P
e0071 TAG LATIN SMALL LETTER Q
e0072 TAG LATIN SMALL LETTER R
e0073 TAG LATIN SMALL LETTER S
e0074 TAG LATIN SMALL LETTER T
e0075 TAG LATIN SMALL LETTER U
e0076 TAG LATIN SMALL LETTER V
e0077 TAG LATIN SMALL LETTER W
e0078 TAG LATIN SMALL LETTER X
e0079 TAG LATIN SMALL LETTER Y
e007a TAG LATIN SMALL LETTER Z
e007b TAG LEFT CURLY BRACKET
e007c TAG VERTICAL LINE
e007d TAG RIGHT CURLY BRACKET
e007e TAG TILDE
e007f CANCEL TAG
e0100 VARIATION SELECTOR-17
e0101 VARIATION SELECTOR-18
e0102 VARIATION SELECTOR-19
e0103 VARIATION SELECTOR-20
e0104 VARIATION SELECTOR-21
e0105 VARIATION SELECTOR-22
e0106 VARIATION SELECTOR-23
e0107 VARIATION SELECTOR-24
e0108 VARIATION SELECTOR-25
e0109 VARIATION SELECTOR-26
e010a VARIATION SELECTOR-27
e010b VARIATION SELECTOR-28
e010c VARIATION SELECTOR-29
e010d VARIATION SELECTOR-30
e010e VARIATION SELECTOR-31
e010f VARIATION SELECTOR-32
e0110 VARIATION SELECTOR-33
e0111 VARIATION SELECTOR-34
e0112 VARIATION SELECTOR-35
e0113 VARIATION SELECTOR-36
e0114 VARIATION SELECTOR-37
e0115 VARIATION SELECTOR-38
e0116 VARIATION SELECTOR-39
e0117 VARIATION SELECTOR-40
e0118 VARIATION SELECTOR-41
e0119 VARIATION SELECTOR-42
e011a VARIATION SELECTOR-43
e011b VARIATION SELECTOR-44
e011c VARIATION SELECTOR-45
e011d VARIATION SELECTOR-46
e011e VARIATION SELECTOR-47
e011f VARIATION SELECTOR-48
e0120 VARIATION SELECTOR-49
e0121 VARIATION SELECTOR-50
e0122 VARIATION SELECTOR-51
e0123 VARIATION SELECTOR-52
e0124 VARIATION SELECTOR-53
e0125 VARIATION SELECTOR-54
e0126 VARIATION SELECTOR-55
e0127 VARIATION SELECTOR-56
e0128 VARIATION SELECTOR-57
e0129 VARIATION SELECTOR-58
e012a VARIATION SELECTOR-59
e012b VARIATION SELECTOR-60
e012c VARIATION SELECTOR-61
e012d VARIATION SELECTOR-62
e012e VARIATION SELECTOR-63
e012f VARIATION SELECTOR-64
e0130 VARIATION SELECTOR-65
e0131 VARIATION SELECTOR-66
e0132 VARIATION SELECTOR-67
e0133 VARIATION SELECTOR-68
e0134 VARIATION SELECTOR-69
e0135 VARIATION SELECTOR-70
e0136 VARIATION SELECTOR-71
e0137 VARIATION SELECTOR-72
e0138 VARIATION SELECTOR-73
e0139 VARIATION SELECTOR-74
e013a VARIATION SELECTOR-75
e013b VARIATION SELECTOR-76
e013c VARIATION SELECTOR-77
e013d VARIATION SELECTOR-78
e013e VARIATION SELECTOR-79
e013f VARIATION SELECTOR-80
e0140 VARIATION SELECTOR-81
e0141 VARIATION SELECTOR-82
e0142 VARIATION SELECTOR-83
e0143 VARIATION SELECTOR-84
e0144 VARIATION SELECTOR-85
e0145 VARIATION SELECTOR-86
e0146 VARIATION SELECTOR-87
e0147 VARIATION SELECTOR-88
e0148 VARIATION SELECTOR-89
e0149 VARIATION SELECTOR-90
e014a VARIATION SELECTOR-91
e014b VARIATION SELECTOR-92
e014c VARIATION SELECTOR-93
e014d VARIATION SELECTOR-94
e014e VARIATION SELECTOR-95
e014f VARIATION SELECTOR-96
e0150 VARIATION SELECTOR-97
e0151 VARIATION SELECTOR-98
e0152 VARIATION SELECTOR-99
e0153 VARIATION SELECTOR-100
e0154 VARIATION SELECTOR-101
e0155 VARIATION SELECTOR-102
e0156 VARIATION SELECTOR-103
e0157 VARIATION SELECTOR-104
e0158 VARIATION SELECTOR-105
e0159 VARIATION SELECTOR-106
e015a VARIATION SELECTOR-107
e015b VARIATION SELECTOR-108
e015c VARIATION SELECTOR-109
e015d VARIATION SELECTOR-110
e015e VARIATION SELECTOR-111
e015f VARIATION SELECTOR-112
e0160 VARIATION SELECTOR-113
e0161 VARIATION SELECTOR-114
e0162 VARIATION SELECTOR-115
e0163 VARIATION SELECTOR-116
e0164 VARIATION SELECTOR-117
e0165 VARIATION SELECTOR-118
e0166 VARIATION SELECTOR-119
e0167 VARIATION SELECTOR-120
e0168 VARIATION SELECTOR-121
e0169 VARIATION SELECTOR-122
e016a VARIATION SELECTOR-123
e016b VARIATION SELECTOR-124
e016c VARIATION SELECTOR-125
e016d VARIATION SELECTOR-126
e016e VARIATION SELECTOR-127
e016f VARIATION SELECTOR-128
e0170 VARIATION SELECTOR-129
e0171 VARIATION SELECTOR-130
e0172 VARIATION SELECTOR-131
e0173 VARIATION SELECTOR-132
e0174 VARIATION SELECTOR-133
e0175 VARIATION SELECTOR-134
e0176 VARIATION SELECTOR-135
e0177 VARIATION SELECTOR-136
e0178 VARIATION SELECTOR-137
e0179 VARIATION SELECTOR-138
e017a VARIATION SELECTOR-139
e017b VARIATION SELECTOR-140
e017c VARIATION SELECTOR-141
e017d VARIATION SELECTOR-142
e017e VARIATION SELECTOR-143
e017f VARIATION SELECTOR-144
e0180 VARIATION SELECTOR-145
e0181 VARIATION SELECTOR-146
e0182 VARIATION SELECTOR-147
e0183 VARIATION SELECTOR-148
e0184 VARIATION SELECTOR-149
e0185 VARIATION SELECTOR-150
e0186 VARIATION SELECTOR-151
e0187 VARIATION SELECTOR-152
e0188 VARIATION SELECTOR-153
e0189 VARIATION SELECTOR-154
e018a VARIATION SELECTOR-155
e018b VARIATION SELECTOR-156
e018c VARIATION SELECTOR-157
e018d VARIATION SELECTOR-158
e018e VARIATION SELECTOR-159
e018f VARIATION SELECTOR-160
e0190 VARIATION SELECTOR-161
e0191 VARIATION SELECTOR-162
e0192 VARIATION SELECTOR-163
e0193 VARIATION SELECTOR-164
e0194 VARIATION SELECTOR-165
e0195 VARIATION SELECTOR-166
e0196 VARIATION SELECTOR-167
e0197 VARIATION SELECTOR-168
e0198 VARIATION SELECTOR-169
e0199 VARIATION SELECTOR-170
e019a VARIATION SELECTOR-171
e019b VARIATION SELECTOR-172
e019c VARIATION SELECTOR-173
e019d VARIATION SELECTOR-174
e019e VARIATION SELECTOR-175
e019f VARIATION SELECTOR-176
e01a0 VARIATION SELECTOR-177
e01a1 VARIATION SELECTOR-178
e01a2 VARIATION SELECTOR-179
e01a3 VARIATION SELECTOR-180
e01a4 VARIATION SELECTOR-181
e01a5 VARIATION SELECTOR-182
e01a6 VARIATION SELECTOR-183
e01a7 VARIATION SELECTOR-184
e01a8 VARIATION SELECTOR-185
e01a9 VARIATION SELECTOR-186
e01aa VARIATION SELECTOR-187
e01ab VARIATION SELECTOR-188
e01ac VARIATION SELECTOR-189
e01ad VARIATION SELECTOR-190
e01ae VARIATION SELECTOR-191
e01af VARIATION SELECTOR-192
e01b0 VARIATION SELECTOR-193
e01b1 VARIATION SELECTOR-194
e01b2 VARIATION SELECTOR-195
e01b3 VARIATION SELECTOR-196
e01b4 VARIATION SELECTOR-197
e01b5 VARIATION SELECTOR-198
e01b6 VARIATION SELECTOR-199
e01b7 VARIATION SELECTOR-200
e01b8 VARIATION SELECTOR-201
e01b9 VARIATION SELECTOR-202
e01ba VARIATION SELECTOR-203
e01bb VARIATION SELECTOR-204
e01bc VARIATION SELECTOR-205
e01bd VARIATION SELECTOR-206
e01be VARIATION SELECTOR-207
e01bf VARIATION SELECTOR-208
e01c0 VARIATION SELECTOR-209
e01c1 VARIATION SELECTOR-210
e01c2 VARIATION SELECTOR-211
e01c3 VARIATION SELECTOR-212
e01c4 VARIATION SELECTOR-213
e01c5 VARIATION SELECTOR-214
e01c6 VARIATION SELECTOR-215
e01c7 VARIATION SELECTOR-216
e01c8 VARIATION SELECTOR-217
e01c9 VARIATION SELECTOR-218
e01ca VARIATION SELECTOR-219
e01cb VARIATION SELECTOR-220
e01cc VARIATION SELECTOR-221
e01cd VARIATION SELECTOR-222
e01ce VARIATION SELECTOR-223
e01cf VARIATION SELECTOR-224
e01d0 VARIATION SELECTOR-225
e01d1 VARIATION SELECTOR-226
e01d2 VARIATION SELECTOR-227
e01d3 VARIATION SELECTOR-228
e01d4 VARIATION SELECTOR-229
e01d5 VARIATION SELECTOR-230
e01d6 VARIATION SELECTOR-231
e01d7 VARIATION SELECTOR-232
e01d8 VARIATION SELECTOR-233
e01d9 VARIATION SELECTOR-234
e01da VARIATION SELECTOR-235
e01db VARIATION SELECTOR-236
e01dc VARIATION SELECTOR-237
e01dd VARIATION SELECTOR-238
e01de VARIATION SELECTOR-239
e01df VARIATION SELECTOR-240
e01e0 VARIATION SELECTOR-241
e01e1 VARIATION SELECTOR-242
e01e2 VARIATION SELECTOR-243
e01e3 VARIATION SELECTOR-244
e01e4 VARIATION SELECTOR-245
e01e5 VARIATION SELECTOR-246
e01e6 VARIATION SELECTOR-247
e01e7 VARIATION SELECTOR-248
e01e8 VARIATION SELECTOR-249
e01e9 VARIATION SELECTOR-250
e01ea VARIATION SELECTOR-251
e01eb VARIATION SELECTOR-252
e01ec VARIATION SELECTOR-253
e01ed VARIATION SELECTOR-254
e01ee VARIATION SELECTOR-255
e01ef VARIATION SELECTOR-256"

end EntityCatalog.Text
