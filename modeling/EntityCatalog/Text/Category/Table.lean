namespace EntityCatalog.Text

def categoryTable : String :=
    "0 19 20 16 21 11 24 13 25 11 28 d 29 e 2a 11 2b 12 2c 11 2d c 2e 11 30 8 3a 11 3c 12 3f 11
    41 0 5b d 5c 11 5d e 5e 14 5f b 60 14 61 1 7b d 7c 12 7d e 7e 12 7f 19 a0 16 a1 11 a2 13 a6
    15 a7 11 a8 14 a9 15 aa 4 ab f ac 12 ad 1a ae 15 af 14 b0 15 b1 12 b2 a b4 14 b5 1 b6 11 b8
    14 b9 a ba 4 bb 10 bc a bf 11 c0 0 d7 12 d8 0 df 1 f7 12 f8 1 100 0 101 1 102 0 103 1 104 0
    105 1 106 0 107 1 108 0 109 1 10a 0 10b 1 10c 0 10d 1 10e 0 10f 1 110 0 111 1 112 0 113 1
    114 0 115 1 116 0 117 1 118 0 119 1 11a 0 11b 1 11c 0 11d 1 11e 0 11f 1 120 0 121 1 122 0
    123 1 124 0 125 1 126 0 127 1 128 0 129 1 12a 0 12b 1 12c 0 12d 1 12e 0 12f 1 130 0 131 1
    132 0 133 1 134 0 135 1 136 0 137 1 139 0 13a 1 13b 0 13c 1 13d 0 13e 1 13f 0 140 1 141 0
    142 1 143 0 144 1 145 0 146 1 147 0 148 1 14a 0 14b 1 14c 0 14d 1 14e 0 14f 1 150 0 151 1
    152 0 153 1 154 0 155 1 156 0 157 1 158 0 159 1 15a 0 15b 1 15c 0 15d 1 15e 0 15f 1 160 0
    161 1 162 0 163 1 164 0 165 1 166 0 167 1 168 0 169 1 16a 0 16b 1 16c 0 16d 1 16e 0 16f 1
    170 0 171 1 172 0 173 1 174 0 175 1 176 0 177 1 178 0 17a 1 17b 0 17c 1 17d 0 17e 1 181 0
    183 1 184 0 185 1 186 0 188 1 189 0 18c 1 18e 0 192 1 193 0 195 1 196 0 199 1 19c 0 19e 1
    19f 0 1a1 1 1a2 0 1a3 1 1a4 0 1a5 1 1a6 0 1a8 1 1a9 0 1aa 1 1ac 0 1ad 1 1ae 0 1b0 1 1b1 0
    1b4 1 1b5 0 1b6 1 1b7 0 1b9 1 1bb 4 1bc 0 1bd 1 1c0 4 1c4 0 1c5 2 1c6 1 1c7 0 1c8 2 1c9 1
    1ca 0 1cb 2 1cc 1 1cd 0 1ce 1 1cf 0 1d0 1 1d1 0 1d2 1 1d3 0 1d4 1 1d5 0 1d6 1 1d7 0 1d8 1
    1d9 0 1da 1 1db 0 1dc 1 1de 0 1df 1 1e0 0 1e1 1 1e2 0 1e3 1 1e4 0 1e5 1 1e6 0 1e7 1 1e8 0
    1e9 1 1ea 0 1eb 1 1ec 0 1ed 1 1ee 0 1ef 1 1f1 0 1f2 2 1f3 1 1f4 0 1f5 1 1f6 0 1f9 1 1fa 0
    1fb 1 1fc 0 1fd 1 1fe 0 1ff 1 200 0 201 1 202 0 203 1 204 0 205 1 206 0 207 1 208 0 209 1
    20a 0 20b 1 20c 0 20d 1 20e 0 20f 1 210 0 211 1 212 0 213 1 214 0 215 1 216 0 217 1 218 0
    219 1 21a 0 21b 1 21c 0 21d 1 21e 0 21f 1 220 0 221 1 222 0 223 1 224 0 225 1 226 0 227 1
    228 0 229 1 22a 0 22b 1 22c 0 22d 1 22e 0 22f 1 230 0 231 1 232 0 233 1 23a 0 23c 1 23d 0
    23f 1 241 0 242 1 243 0 247 1 248 0 249 1 24a 0 24b 1 24c 0 24d 1 24e 0 24f 1 294 4 295 1
    2b0 3 2c2 14 2c6 3 2d2 14 2e0 3 2e5 14 2ec 3 2ed 14 2ee 3 2ef 14 300 5 370 0 371 1 372 0 373
    1 374 3 375 14 376 0 377 1 378 1d 37a 3 37b 1 37e 11 37f 0 380 1d 384 14 386 0 387 11 388 0
    38b 1d 38c 0 38d 1d 38e 0 390 1 391 0 3a2 1d 3a3 0 3ac 1 3cf 0 3d0 1 3d2 0 3d5 1 3d8 0 3d9 1
    3da 0 3db 1 3dc 0 3dd 1 3de 0 3df 1 3e0 0 3e1 1 3e2 0 3e3 1 3e4 0 3e5 1 3e6 0 3e7 1 3e8 0
    3e9 1 3ea 0 3eb 1 3ec 0 3ed 1 3ee 0 3ef 1 3f4 0 3f5 1 3f6 12 3f7 0 3f8 1 3f9 0 3fb 1 3fd 0
    430 1 460 0 461 1 462 0 463 1 464 0 465 1 466 0 467 1 468 0 469 1 46a 0 46b 1 46c 0 46d 1
    46e 0 46f 1 470 0 471 1 472 0 473 1 474 0 475 1 476 0 477 1 478 0 479 1 47a 0 47b 1 47c 0
    47d 1 47e 0 47f 1 480 0 481 1 482 15 483 5 488 7 48a 0 48b 1 48c 0 48d 1 48e 0 48f 1 490 0
    491 1 492 0 493 1 494 0 495 1 496 0 497 1 498 0 499 1 49a 0 49b 1 49c 0 49d 1 49e 0 49f 1
    4a0 0 4a1 1 4a2 0 4a3 1 4a4 0 4a5 1 4a6 0 4a7 1 4a8 0 4a9 1 4aa 0 4ab 1 4ac 0 4ad 1 4ae 0
    4af 1 4b0 0 4b1 1 4b2 0 4b3 1 4b4 0 4b5 1 4b6 0 4b7 1 4b8 0 4b9 1 4ba 0 4bb 1 4bc 0 4bd 1
    4be 0 4bf 1 4c0 0 4c2 1 4c3 0 4c4 1 4c5 0 4c6 1 4c7 0 4c8 1 4c9 0 4ca 1 4cb 0 4cc 1 4cd 0
    4ce 1 4d0 0 4d1 1 4d2 0 4d3 1 4d4 0 4d5 1 4d6 0 4d7 1 4d8 0 4d9 1 4da 0 4db 1 4dc 0 4dd 1
    4de 0 4df 1 4e0 0 4e1 1 4e2 0 4e3 1 4e4 0 4e5 1 4e6 0 4e7 1 4e8 0 4e9 1 4ea 0 4eb 1 4ec 0
    4ed 1 4ee 0 4ef 1 4f0 0 4f1 1 4f2 0 4f3 1 4f4 0 4f5 1 4f6 0 4f7 1 4f8 0 4f9 1 4fa 0 4fb 1
    4fc 0 4fd 1 4fe 0 4ff 1 500 0 501 1 502 0 503 1 504 0 505 1 506 0 507 1 508 0 509 1 50a 0
    50b 1 50c 0 50d 1 50e 0 50f 1 510 0 511 1 512 0 513 1 514 0 515 1 516 0 517 1 518 0 519 1
    51a 0 51b 1 51c 0 51d 1 51e 0 51f 1 520 0 521 1 522 0 523 1 524 0 525 1 526 0 527 1 528 0
    529 1 52a 0 52b 1 52c 0 52d 1 52e 0 52f 1 530 1d 531 0 557 1d 559 3 55a 11 560 1 589 11 58a
    c 58b 1d 58d 15 58f 13 590 1d 591 5 5be c 5bf 5 5c0 11 5c1 5 5c3 11 5c4 5 5c6 11 5c7 5 5c8
    1d 5d0 4 5eb 1d 5ef 4 5f3 11 5f5 1d 600 1a 606 12 609 11 60b 13 60c 11 60e 15 610 5 61b 11
    61c 1a 61d 11 620 4 640 3 641 4 64b 5 660 8 66a 11 66e 4 670 5 671 4 6d4 11 6d5 4 6d6 5 6dd
    1a 6de 15 6df 5 6e5 3 6e7 5 6e9 15 6ea 5 6ee 4 6f0 8 6fa 4 6fd 15 6ff 4 700 11 70e 1d 70f 1a
    710 4 711 5 712 4 730 5 74b 1d 74d 4 7a6 5 7b1 4 7b2 1d 7c0 8 7ca 4 7eb 5 7f4 3 7f6 15 7f7
    11 7fa 3 7fb 1d 7fd 5 7fe 13 800 4 816 5 81a 3 81b 5 824 3 825 5 828 3 829 5 82e 1d 830 11
    83f 1d 840 4 859 5 85c 1d 85e 11 85f 1d 860 4 86b 1d 870 4 888 14 889 4 88f 1d 890 1a 892 1d
    898 5 8a0 4 8c9 3 8ca 5 8e2 1a 8e3 5 903 6 904 4 93a 5 93b 6 93c 5 93d 4 93e 6 941 5 949 6
    94d 5 94e 6 950 4 951 5 958 4 962 5 964 11 966 8 970 11 971 3 972 4 981 5 982 6 984 1d 985 4
    98d 1d 98f 4 991 1d 993 4 9a9 1d 9aa 4 9b1 1d 9b2 4 9b3 1d 9b6 4 9ba 1d 9bc 5 9bd 4 9be 6
    9c1 5 9c5 1d 9c7 6 9c9 1d 9cb 6 9cd 5 9ce 4 9cf 1d 9d7 6 9d8 1d 9dc 4 9de 1d 9df 4 9e2 5 9e4
    1d 9e6 8 9f0 4 9f2 13 9f4 a 9fa 15 9fb 13 9fc 4 9fd 11 9fe 5 9ff 1d a01 5 a03 6 a04 1d a05 4
    a0b 1d a0f 4 a11 1d a13 4 a29 1d a2a 4 a31 1d a32 4 a34 1d a35 4 a37 1d a38 4 a3a 1d a3c 5
    a3d 1d a3e 6 a41 5 a43 1d a47 5 a49 1d a4b 5 a4e 1d a51 5 a52 1d a59 4 a5d 1d a5e 4 a5f 1d
    a66 8 a70 5 a72 4 a75 5 a76 11 a77 1d a81 5 a83 6 a84 1d a85 4 a8e 1d a8f 4 a92 1d a93 4 aa9
    1d aaa 4 ab1 1d ab2 4 ab4 1d ab5 4 aba 1d abc 5 abd 4 abe 6 ac1 5 ac6 1d ac7 5 ac9 6 aca 1d
    acb 6 acd 5 ace 1d ad0 4 ad1 1d ae0 4 ae2 5 ae4 1d ae6 8 af0 11 af1 13 af2 1d af9 4 afa 5
    b00 1d b01 5 b02 6 b04 1d b05 4 b0d 1d b0f 4 b11 1d b13 4 b29 1d b2a 4 b31 1d b32 4 b34 1d
    b35 4 b3a 1d b3c 5 b3d 4 b3e 6 b3f 5 b40 6 b41 5 b45 1d b47 6 b49 1d b4b 6 b4d 5 b4e 1d b55
    5 b57 6 b58 1d b5c 4 b5e 1d b5f 4 b62 5 b64 1d b66 8 b70 15 b71 4 b72 a b78 1d b82 5 b83 4
    b84 1d b85 4 b8b 1d b8e 4 b91 1d b92 4 b96 1d b99 4 b9b 1d b9c 4 b9d 1d b9e 4 ba0 1d ba3 4
    ba5 1d ba8 4 bab 1d bae 4 bba 1d bbe 6 bc0 5 bc1 6 bc3 1d bc6 6 bc9 1d bca 6 bcd 5 bce 1d
    bd0 4 bd1 1d bd7 6 bd8 1d be6 8 bf0 a bf3 15 bf9 13 bfa 15 bfb 1d c00 5 c01 6 c04 5 c05 4
    c0d 1d c0e 4 c11 1d c12 4 c29 1d c2a 4 c3a 1d c3c 5 c3d 4 c3e 5 c41 6 c45 1d c46 5 c49 1d
    c4a 5 c4e 1d c55 5 c57 1d c58 4 c5b 1d c5d 4 c5e 1d c60 4 c62 5 c64 1d c66 8 c70 1d c77 11
    c78 a c7f 15 c80 4 c81 5 c82 6 c84 11 c85 4 c8d 1d c8e 4 c91 1d c92 4 ca9 1d caa 4 cb4 1d
    cb5 4 cba 1d cbc 5 cbd 4 cbe 6 cbf 5 cc0 6 cc5 1d cc6 5 cc7 6 cc9 1d cca 6 ccc 5 cce 1d cd5
    6 cd7 1d cdd 4 cdf 1d ce0 4 ce2 5 ce4 1d ce6 8 cf0 1d cf1 4 cf3 1d d00 5 d02 6 d04 4 d0d 1d
    d0e 4 d11 1d d12 4 d3b 5 d3d 4 d3e 6 d41 5 d45 1d d46 6 d49 1d d4a 6 d4d 5 d4e 4 d4f 15 d50
    1d d54 4 d57 6 d58 a d5f 4 d62 5 d64 1d d66 8 d70 a d79 15 d7a 4 d80 1d d81 5 d82 6 d84 1d
    d85 4 d97 1d d9a 4 db2 1d db3 4 dbc 1d dbd 4 dbe 1d dc0 4 dc7 1d dca 5 dcb 1d dcf 6 dd2 5
    dd5 1d dd6 5 dd7 1d dd8 6 de0 1d de6 8 df0 1d df2 6 df4 11 df5 1d e01 4 e31 5 e32 4 e34 5
    e3b 1d e3f 13 e40 4 e46 3 e47 5 e4f 11 e50 8 e5a 11 e5c 1d e81 4 e83 1d e84 4 e85 1d e86 4
    e8b 1d e8c 4 ea4 1d ea5 4 ea6 1d ea7 4 eb1 5 eb2 4 eb4 5 ebd 4 ebe 1d ec0 4 ec5 1d ec6 3 ec7
    1d ec8 5 ece 1d ed0 8 eda 1d edc 4 ee0 1d f00 4 f01 15 f04 11 f13 15 f14 11 f15 15 f18 5 f1a
    15 f20 8 f2a a f34 15 f35 5 f36 15 f37 5 f38 15 f39 5 f3a d f3b e f3c d f3d e f3e 6 f40 4
    f48 1d f49 4 f6d 1d f71 5 f7f 6 f80 5 f85 11 f86 5 f88 4 f8d 5 f98 1d f99 5 fbd 1d fbe 15
    fc6 5 fc7 15 fcd 1d fce 15 fd0 11 fd5 15 fd9 11 fdb 1d 1000 4 102b 6 102d 5 1031 6 1032 5
    1038 6 1039 5 103b 6 103d 5 103f 4 1040 8 104a 11 1050 4 1056 6 1058 5 105a 4 105e 5 1061 4
    1062 6 1065 4 1067 6 106e 4 1071 5 1075 4 1082 5 1083 6 1085 5 1087 6 108d 5 108e 4 108f 6
    1090 8 109a 6 109d 5 109e 15 10a0 0 10c6 1d 10c7 0 10c8 1d 10cd 0 10ce 1d 10d0 1 10fb 11
    10fc 3 10fd 1 1100 4 1249 1d 124a 4 124e 1d 1250 4 1257 1d 1258 4 1259 1d 125a 4 125e 1d
    1260 4 1289 1d 128a 4 128e 1d 1290 4 12b1 1d 12b2 4 12b6 1d 12b8 4 12bf 1d 12c0 4 12c1 1d
    12c2 4 12c6 1d 12c8 4 12d7 1d 12d8 4 1311 1d 1312 4 1316 1d 1318 4 135b 1d 135d 5 1360 11
    1369 a 137d 1d 1380 4 1390 15 139a 1d 13a0 0 13f6 1d 13f8 1 13fe 1d 1400 c 1401 4 166d 15
    166e 11 166f 4 1680 16 1681 4 169b d 169c e 169d 1d 16a0 4 16eb 11 16ee 9 16f1 4 16f9 1d
    1700 4 1712 5 1715 6 1716 1d 171f 4 1732 5 1734 6 1735 11 1737 1d 1740 4 1752 5 1754 1d 1760
    4 176d 1d 176e 4 1771 1d 1772 5 1774 1d 1780 4 17b4 5 17b6 6 17b7 5 17be 6 17c6 5 17c7 6
    17c9 5 17d4 11 17d7 3 17d8 11 17db 13 17dc 4 17dd 5 17de 1d 17e0 8 17ea 1d 17f0 a 17fa 1d
    1800 11 1806 c 1807 11 180b 5 180e 1a 180f 5 1810 8 181a 1d 1820 4 1843 3 1844 4 1879 1d
    1880 4 1885 5 1887 4 18a9 5 18aa 4 18ab 1d 18b0 4 18f6 1d 1900 4 191f 1d 1920 5 1923 6 1927
    5 1929 6 192c 1d 1930 6 1932 5 1933 6 1939 5 193c 1d 1940 15 1941 1d 1944 11 1946 8 1950 4
    196e 1d 1970 4 1975 1d 1980 4 19ac 1d 19b0 4 19ca 1d 19d0 8 19da a 19db 1d 19de 15 1a00 4
    1a17 5 1a19 6 1a1b 5 1a1c 1d 1a1e 11 1a20 4 1a55 6 1a56 5 1a57 6 1a58 5 1a5f 1d 1a60 5 1a61
    6 1a62 5 1a63 6 1a65 5 1a6d 6 1a73 5 1a7d 1d 1a7f 5 1a80 8 1a8a 1d 1a90 8 1a9a 1d 1aa0 11
    1aa7 3 1aa8 11 1aae 1d 1ab0 5 1abe 7 1abf 5 1acf 1d 1b00 5 1b04 6 1b05 4 1b34 5 1b35 6 1b36
    5 1b3b 6 1b3c 5 1b3d 6 1b42 5 1b43 6 1b45 4 1b4d 1d 1b50 8 1b5a 11 1b61 15 1b6b 5 1b74 15
    1b7d 11 1b7f 1d 1b80 5 1b82 6 1b83 4 1ba1 6 1ba2 5 1ba6 6 1ba8 5 1baa 6 1bab 5 1bae 4 1bb0 8
    1bba 4 1be6 5 1be7 6 1be8 5 1bea 6 1bed 5 1bee 6 1bef 5 1bf2 6 1bf4 1d 1bfc 11 1c00 4 1c24 6
    1c2c 5 1c34 6 1c36 5 1c38 1d 1c3b 11 1c40 8 1c4a 1d 1c4d 4 1c50 8 1c5a 4 1c78 3 1c7e 11 1c80
    1 1c89 1d 1c90 0 1cbb 1d 1cbd 0 1cc0 11 1cc8 1d 1cd0 5 1cd3 11 1cd4 5 1ce1 6 1ce2 5 1ce9 4
    1ced 5 1cee 4 1cf4 5 1cf5 4 1cf7 6 1cf8 5 1cfa 4 1cfb 1d 1d00 1 1d2c 3 1d6b 1 1d78 3 1d79 1
    1d9b 3 1dc0 5 1e00 0 1e01 1 1e02 0 1e03 1 1e04 0 1e05 1 1e06 0 1e07 1 1e08 0 1e09 1 1e0a 0
    1e0b 1 1e0c 0 1e0d 1 1e0e 0 1e0f 1 1e10 0 1e11 1 1e12 0 1e13 1 1e14 0 1e15 1 1e16 0 1e17 1
    1e18 0 1e19 1 1e1a 0 1e1b 1 1e1c 0 1e1d 1 1e1e 0 1e1f 1 1e20 0 1e21 1 1e22 0 1e23 1 1e24 0
    1e25 1 1e26 0 1e27 1 1e28 0 1e29 1 1e2a 0 1e2b 1 1e2c 0 1e2d 1 1e2e 0 1e2f 1 1e30 0 1e31 1
    1e32 0 1e33 1 1e34 0 1e35 1 1e36 0 1e37 1 1e38 0 1e39 1 1e3a 0 1e3b 1 1e3c 0 1e3d 1 1e3e 0
    1e3f 1 1e40 0 1e41 1 1e42 0 1e43 1 1e44 0 1e45 1 1e46 0 1e47 1 1e48 0 1e49 1 1e4a 0 1e4b 1
    1e4c 0 1e4d 1 1e4e 0 1e4f 1 1e50 0 1e51 1 1e52 0 1e53 1 1e54 0 1e55 1 1e56 0 1e57 1 1e58 0
    1e59 1 1e5a 0 1e5b 1 1e5c 0 1e5d 1 1e5e 0 1e5f 1 1e60 0 1e61 1 1e62 0 1e63 1 1e64 0 1e65 1
    1e66 0 1e67 1 1e68 0 1e69 1 1e6a 0 1e6b 1 1e6c 0 1e6d 1 1e6e 0 1e6f 1 1e70 0 1e71 1 1e72 0
    1e73 1 1e74 0 1e75 1 1e76 0 1e77 1 1e78 0 1e79 1 1e7a 0 1e7b 1 1e7c 0 1e7d 1 1e7e 0 1e7f 1
    1e80 0 1e81 1 1e82 0 1e83 1 1e84 0 1e85 1 1e86 0 1e87 1 1e88 0 1e89 1 1e8a 0 1e8b 1 1e8c 0
    1e8d 1 1e8e 0 1e8f 1 1e90 0 1e91 1 1e92 0 1e93 1 1e94 0 1e95 1 1e9e 0 1e9f 1 1ea0 0 1ea1 1
    1ea2 0 1ea3 1 1ea4 0 1ea5 1 1ea6 0 1ea7 1 1ea8 0 1ea9 1 1eaa 0 1eab 1 1eac 0 1ead 1 1eae 0
    1eaf 1 1eb0 0 1eb1 1 1eb2 0 1eb3 1 1eb4 0 1eb5 1 1eb6 0 1eb7 1 1eb8 0 1eb9 1 1eba 0 1ebb 1
    1ebc 0 1ebd 1 1ebe 0 1ebf 1 1ec0 0 1ec1 1 1ec2 0 1ec3 1 1ec4 0 1ec5 1 1ec6 0 1ec7 1 1ec8 0
    1ec9 1 1eca 0 1ecb 1 1ecc 0 1ecd 1 1ece 0 1ecf 1 1ed0 0 1ed1 1 1ed2 0 1ed3 1 1ed4 0 1ed5 1
    1ed6 0 1ed7 1 1ed8 0 1ed9 1 1eda 0 1edb 1 1edc 0 1edd 1 1ede 0 1edf 1 1ee0 0 1ee1 1 1ee2 0
    1ee3 1 1ee4 0 1ee5 1 1ee6 0 1ee7 1 1ee8 0 1ee9 1 1eea 0 1eeb 1 1eec 0 1eed 1 1eee 0 1eef 1
    1ef0 0 1ef1 1 1ef2 0 1ef3 1 1ef4 0 1ef5 1 1ef6 0 1ef7 1 1ef8 0 1ef9 1 1efa 0 1efb 1 1efc 0
    1efd 1 1efe 0 1eff 1 1f08 0 1f10 1 1f16 1d 1f18 0 1f1e 1d 1f20 1 1f28 0 1f30 1 1f38 0 1f40 1
    1f46 1d 1f48 0 1f4e 1d 1f50 1 1f58 1d 1f59 0 1f5a 1d 1f5b 0 1f5c 1d 1f5d 0 1f5e 1d 1f5f 0
    1f60 1 1f68 0 1f70 1 1f7e 1d 1f80 1 1f88 2 1f90 1 1f98 2 1fa0 1 1fa8 2 1fb0 1 1fb5 1d 1fb6 1
    1fb8 0 1fbc 2 1fbd 14 1fbe 1 1fbf 14 1fc2 1 1fc5 1d 1fc6 1 1fc8 0 1fcc 2 1fcd 14 1fd0 1 1fd4
    1d 1fd6 1 1fd8 0 1fdc 1d 1fdd 14 1fe0 1 1fe8 0 1fed 14 1ff0 1d 1ff2 1 1ff5 1d 1ff6 1 1ff8 0
    1ffc 2 1ffd 14 1fff 1d 2000 16 200b 1a 2010 c 2016 11 2018 f 2019 10 201a d 201b f 201d 10
    201e d 201f f 2020 11 2028 17 2029 18 202a 1a 202f 16 2030 11 2039 f 203a 10 203b 11 203f b
    2041 11 2044 12 2045 d 2046 e 2047 11 2052 12 2053 11 2054 b 2055 11 205f 16 2060 1a 2065 1d
    2066 1a 2070 a 2071 3 2072 1d 2074 a 207a 12 207d d 207e e 207f 3 2080 a 208a 12 208d d 208e
    e 208f 1d 2090 3 209d 1d 20a0 13 20c1 1d 20d0 5 20dd 7 20e1 5 20e2 7 20e5 5 20f1 1d 2100 15
    2102 0 2103 15 2107 0 2108 15 210a 1 210b 0 210e 1 2110 0 2113 1 2114 15 2115 0 2116 15 2118
    12 2119 0 211e 15 2124 0 2125 15 2126 0 2127 15 2128 0 2129 15 212a 0 212e 15 212f 1 2130 0
    2134 1 2135 4 2139 1 213a 15 213c 1 213e 0 2140 12 2145 0 2146 1 214a 15 214b 12 214c 15
    214e 1 214f 15 2150 a 2160 9 2183 0 2184 1 2185 9 2189 a 218a 15 218c 1d 2190 12 2195 15
    219a 12 219c 15 21a0 12 21a1 15 21a3 12 21a4 15 21a6 12 21a7 15 21ae 12 21af 15 21ce 12 21d0
    15 21d2 12 21d3 15 21d4 12 21d5 15 21f4 12 2300 15 2308 d 2309 e 230a d 230b e 230c 15 2320
    12 2322 15 2329 d 232a e 232b 15 237c 12 237d 15 239b 12 23b4 15 23dc 12 23e2 15 2427 1d
    2440 15 244b 1d 2460 a 249c 15 24ea a 2500 15 25b7 12 25b8 15 25c1 12 25c2 15 25f8 12 2600
    15 266f 12 2670 15 2768 d 2769 e 276a d 276b e 276c d 276d e 276e d 276f e 2770 d 2771 e
    2772 d 2773 e 2774 d 2775 e 2776 a 2794 15 27c0 12 27c5 d 27c6 e 27c7 12 27e6 d 27e7 e 27e8
    d 27e9 e 27ea d 27eb e 27ec d 27ed e 27ee d 27ef e 27f0 12 2800 15 2900 12 2983 d 2984 e
    2985 d 2986 e 2987 d 2988 e 2989 d 298a e 298b d 298c e 298d d 298e e 298f d 2990 e 2991 d
    2992 e 2993 d 2994 e 2995 d 2996 e 2997 d 2998 e 2999 12 29d8 d 29d9 e 29da d 29db e 29dc 12
    29fc d 29fd e 29fe 12 2b00 15 2b30 12 2b45 15 2b47 12 2b4d 15 2b74 1d 2b76 15 2b96 1d 2b97
    15 2c00 0 2c30 1 2c60 0 2c61 1 2c62 0 2c65 1 2c67 0 2c68 1 2c69 0 2c6a 1 2c6b 0 2c6c 1 2c6d
    0 2c71 1 2c72 0 2c73 1 2c75 0 2c76 1 2c7c 3 2c7e 0 2c81 1 2c82 0 2c83 1 2c84 0 2c85 1 2c86 0
    2c87 1 2c88 0 2c89 1 2c8a 0 2c8b 1 2c8c 0 2c8d 1 2c8e 0 2c8f 1 2c90 0 2c91 1 2c92 0 2c93 1
    2c94 0 2c95 1 2c96 0 2c97 1 2c98 0 2c99 1 2c9a 0 2c9b 1 2c9c 0 2c9d 1 2c9e 0 2c9f 1 2ca0 0
    2ca1 1 2ca2 0 2ca3 1 2ca4 0 2ca5 1 2ca6 0 2ca7 1 2ca8 0 2ca9 1 2caa 0 2cab 1 2cac 0 2cad 1
    2cae 0 2caf 1 2cb0 0 2cb1 1 2cb2 0 2cb3 1 2cb4 0 2cb5 1 2cb6 0 2cb7 1 2cb8 0 2cb9 1 2cba 0
    2cbb 1 2cbc 0 2cbd 1 2cbe 0 2cbf 1 2cc0 0 2cc1 1 2cc2 0 2cc3 1 2cc4 0 2cc5 1 2cc6 0 2cc7 1
    2cc8 0 2cc9 1 2cca 0 2ccb 1 2ccc 0 2ccd 1 2cce 0 2ccf 1 2cd0 0 2cd1 1 2cd2 0 2cd3 1 2cd4 0
    2cd5 1 2cd6 0 2cd7 1 2cd8 0 2cd9 1 2cda 0 2cdb 1 2cdc 0 2cdd 1 2cde 0 2cdf 1 2ce0 0 2ce1 1
    2ce2 0 2ce3 1 2ce5 15 2ceb 0 2cec 1 2ced 0 2cee 1 2cef 5 2cf2 0 2cf3 1 2cf4 1d 2cf9 11 2cfd
    a 2cfe 11 2d00 1 2d26 1d 2d27 1 2d28 1d 2d2d 1 2d2e 1d 2d30 4 2d68 1d 2d6f 3 2d70 11 2d71 1d
    2d7f 5 2d80 4 2d97 1d 2da0 4 2da7 1d 2da8 4 2daf 1d 2db0 4 2db7 1d 2db8 4 2dbf 1d 2dc0 4
    2dc7 1d 2dc8 4 2dcf 1d 2dd0 4 2dd7 1d 2dd8 4 2ddf 1d 2de0 5 2e00 11 2e02 f 2e03 10 2e04 f
    2e05 10 2e06 11 2e09 f 2e0a 10 2e0b 11 2e0c f 2e0d 10 2e0e 11 2e17 c 2e18 11 2e1a c 2e1b 11
    2e1c f 2e1d 10 2e1e 11 2e20 f 2e21 10 2e22 d 2e23 e 2e24 d 2e25 e 2e26 d 2e27 e 2e28 d 2e29
    e 2e2a 11 2e2f 3 2e30 11 2e3a c 2e3c 11 2e40 c 2e41 11 2e42 d 2e43 11 2e50 15 2e52 11 2e55 d
    2e56 e 2e57 d 2e58 e 2e59 d 2e5a e 2e5b d 2e5c e 2e5d c 2e5e 1d 2e80 15 2e9a 1d 2e9b 15 2ef4
    1d 2f00 15 2fd6 1d 2ff0 15 2ffc 1d 3000 16 3001 11 3004 15 3005 3 3006 4 3007 9 3008 d 3009
    e 300a d 300b e 300c d 300d e 300e d 300f e 3010 d 3011 e 3012 15 3014 d 3015 e 3016 d 3017
    e 3018 d 3019 e 301a d 301b e 301c c 301d d 301e e 3020 15 3021 9 302a 5 302e 6 3030 c 3031
    3 3036 15 3038 9 303b 3 303c 4 303d 11 303e 15 3040 1d 3041 4 3097 1d 3099 5 309b 14 309d 3
    309f 4 30a0 c 30a1 4 30fb 11 30fc 3 30ff 4 3100 1d 3105 4 3130 1d 3131 4 318f 1d 3190 15
    3192 a 3196 15 31a0 4 31c0 15 31e4 1d 31f0 4 3200 15 321f 1d 3220 a 322a 15 3248 a 3250 15
    3251 a 3260 15 3280 a 328a 15 32b1 a 32c0 15 3400 4 4dc0 15 4e00 4 a015 3 a016 4 a48d 1d
    a490 15 a4c7 1d a4d0 4 a4f8 3 a4fe 11 a500 4 a60c 3 a60d 11 a610 4 a620 8 a62a 4 a62c 1d
    a640 0 a641 1 a642 0 a643 1 a644 0 a645 1 a646 0 a647 1 a648 0 a649 1 a64a 0 a64b 1 a64c 0
    a64d 1 a64e 0 a64f 1 a650 0 a651 1 a652 0 a653 1 a654 0 a655 1 a656 0 a657 1 a658 0 a659 1
    a65a 0 a65b 1 a65c 0 a65d 1 a65e 0 a65f 1 a660 0 a661 1 a662 0 a663 1 a664 0 a665 1 a666 0
    a667 1 a668 0 a669 1 a66a 0 a66b 1 a66c 0 a66d 1 a66e 4 a66f 5 a670 7 a673 11 a674 5 a67e 11
    a67f 3 a680 0 a681 1 a682 0 a683 1 a684 0 a685 1 a686 0 a687 1 a688 0 a689 1 a68a 0 a68b 1
    a68c 0 a68d 1 a68e 0 a68f 1 a690 0 a691 1 a692 0 a693 1 a694 0 a695 1 a696 0 a697 1 a698 0
    a699 1 a69a 0 a69b 1 a69c 3 a69e 5 a6a0 4 a6e6 9 a6f0 5 a6f2 11 a6f8 1d a700 14 a717 3 a720
    14 a722 0 a723 1 a724 0 a725 1 a726 0 a727 1 a728 0 a729 1 a72a 0 a72b 1 a72c 0 a72d 1 a72e
    0 a72f 1 a732 0 a733 1 a734 0 a735 1 a736 0 a737 1 a738 0 a739 1 a73a 0 a73b 1 a73c 0 a73d 1
    a73e 0 a73f 1 a740 0 a741 1 a742 0 a743 1 a744 0 a745 1 a746 0 a747 1 a748 0 a749 1 a74a 0
    a74b 1 a74c 0 a74d 1 a74e 0 a74f 1 a750 0 a751 1 a752 0 a753 1 a754 0 a755 1 a756 0 a757 1
    a758 0 a759 1 a75a 0 a75b 1 a75c 0 a75d 1 a75e 0 a75f 1 a760 0 a761 1 a762 0 a763 1 a764 0
    a765 1 a766 0 a767 1 a768 0 a769 1 a76a 0 a76b 1 a76c 0 a76d 1 a76e 0 a76f 1 a770 3 a771 1
    a779 0 a77a 1 a77b 0 a77c 1 a77d 0 a77f 1 a780 0 a781 1 a782 0 a783 1 a784 0 a785 1 a786 0
    a787 1 a788 3 a789 14 a78b 0 a78c 1 a78d 0 a78e 1 a78f 4 a790 0 a791 1 a792 0 a793 1 a796 0
    a797 1 a798 0 a799 1 a79a 0 a79b 1 a79c 0 a79d 1 a79e 0 a79f 1 a7a0 0 a7a1 1 a7a2 0 a7a3 1
    a7a4 0 a7a5 1 a7a6 0 a7a7 1 a7a8 0 a7a9 1 a7aa 0 a7af 1 a7b0 0 a7b5 1 a7b6 0 a7b7 1 a7b8 0
    a7b9 1 a7ba 0 a7bb 1 a7bc 0 a7bd 1 a7be 0 a7bf 1 a7c0 0 a7c1 1 a7c2 0 a7c3 1 a7c4 0 a7c8 1
    a7c9 0 a7ca 1 a7cb 1d a7d0 0 a7d1 1 a7d2 1d a7d3 1 a7d4 1d a7d5 1 a7d6 0 a7d7 1 a7d8 0 a7d9
    1 a7da 1d a7f2 3 a7f5 0 a7f6 1 a7f7 4 a7f8 3 a7fa 1 a7fb 4 a802 5 a803 4 a806 5 a807 4 a80b
    5 a80c 4 a823 6 a825 5 a827 6 a828 15 a82c 5 a82d 1d a830 a a836 15 a838 13 a839 15 a83a 1d
    a840 4 a874 11 a878 1d a880 6 a882 4 a8b4 6 a8c4 5 a8c6 1d a8ce 11 a8d0 8 a8da 1d a8e0 5
    a8f2 4 a8f8 11 a8fb 4 a8fc 11 a8fd 4 a8ff 5 a900 8 a90a 4 a926 5 a92e 11 a930 4 a947 5 a952
    6 a954 1d a95f 11 a960 4 a97d 1d a980 5 a983 6 a984 4 a9b3 5 a9b4 6 a9b6 5 a9ba 6 a9bc 5
    a9be 6 a9c1 11 a9ce 1d a9cf 3 a9d0 8 a9da 1d a9de 11 a9e0 4 a9e5 5 a9e6 3 a9e7 4 a9f0 8 a9fa
    4 a9ff 1d aa00 4 aa29 5 aa2f 6 aa31 5 aa33 6 aa35 5 aa37 1d aa40 4 aa43 5 aa44 4 aa4c 5 aa4d
    6 aa4e 1d aa50 8 aa5a 1d aa5c 11 aa60 4 aa70 3 aa71 4 aa77 15 aa7a 4 aa7b 6 aa7c 5 aa7d 6
    aa7e 4 aab0 5 aab1 4 aab2 5 aab5 4 aab7 5 aab9 4 aabe 5 aac0 4 aac1 5 aac2 4 aac3 1d aadb 4
    aadd 3 aade 11 aae0 4 aaeb 6 aaec 5 aaee 6 aaf0 11 aaf2 4 aaf3 3 aaf5 6 aaf6 5 aaf7 1d ab01
    4 ab07 1d ab09 4 ab0f 1d ab11 4 ab17 1d ab20 4 ab27 1d ab28 4 ab2f 1d ab30 1 ab5b 14 ab5c 3
    ab60 1 ab69 3 ab6a 14 ab6c 1d ab70 1 abc0 4 abe3 6 abe5 5 abe6 6 abe8 5 abe9 6 abeb 11 abec
    6 abed 5 abee 1d abf0 8 abfa 1d ac00 4 d7a4 1d d7b0 4 d7c7 1d d7cb 4 d7fc 1d d800 1b e000 1c
    f900 4 fa6e 1d fa70 4 fada 1d fb00 1 fb07 1d fb13 1 fb18 1d fb1d 4 fb1e 5 fb1f 4 fb29 12
    fb2a 4 fb37 1d fb38 4 fb3d 1d fb3e 4 fb3f 1d fb40 4 fb42 1d fb43 4 fb45 1d fb46 4 fbb2 14
    fbc3 1d fbd3 4 fd3e e fd3f d fd40 15 fd50 4 fd90 1d fd92 4 fdc8 1d fdcf 15 fdd0 1d fdf0 4
    fdfc 13 fdfd 15 fe00 5 fe10 11 fe17 d fe18 e fe19 11 fe1a 1d fe20 5 fe30 11 fe31 c fe33 b
    fe35 d fe36 e fe37 d fe38 e fe39 d fe3a e fe3b d fe3c e fe3d d fe3e e fe3f d fe40 e fe41 d
    fe42 e fe43 d fe44 e fe45 11 fe47 d fe48 e fe49 11 fe4d b fe50 11 fe53 1d fe54 11 fe58 c
    fe59 d fe5a e fe5b d fe5c e fe5d d fe5e e fe5f 11 fe62 12 fe63 c fe64 12 fe67 1d fe68 11
    fe69 13 fe6a 11 fe6c 1d fe70 4 fe75 1d fe76 4 fefd 1d feff 1a ff00 1d ff01 11 ff04 13 ff05
    11 ff08 d ff09 e ff0a 11 ff0b 12 ff0c 11 ff0d c ff0e 11 ff10 8 ff1a 11 ff1c 12 ff1f 11 ff21
    0 ff3b d ff3c 11 ff3d e ff3e 14 ff3f b ff40 14 ff41 1 ff5b d ff5c 12 ff5d e ff5e 12 ff5f d
    ff60 e ff61 11 ff62 d ff63 e ff64 11 ff66 4 ff70 3 ff71 4 ff9e 3 ffa0 4 ffbf 1d ffc2 4 ffc8
    1d ffca 4 ffd0 1d ffd2 4 ffd8 1d ffda 4 ffdd 1d ffe0 13 ffe2 12 ffe3 14 ffe4 15 ffe5 13 ffe7
    1d ffe8 15 ffe9 12 ffed 15 ffef 1d fff9 1a fffc 15 fffe 1d 10000 4 1000c 1d 1000d 4 10027 1d
    10028 4 1003b 1d 1003c 4 1003e 1d 1003f 4 1004e 1d 10050 4 1005e 1d 10080 4 100fb 1d 10100
    11 10103 1d 10107 a 10134 1d 10137 15 10140 9 10175 a 10179 15 1018a a 1018c 15 1018f 1d
    10190 15 1019d 1d 101a0 15 101a1 1d 101d0 15 101fd 5 101fe 1d 10280 4 1029d 1d 102a0 4 102d1
    1d 102e0 5 102e1 a 102fc 1d 10300 4 10320 a 10324 1d 1032d 4 10341 9 10342 4 1034a 9 1034b
    1d 10350 4 10376 5 1037b 1d 10380 4 1039e 1d 1039f 11 103a0 4 103c4 1d 103c8 4 103d0 11
    103d1 9 103d6 1d 10400 0 10428 1 10450 4 1049e 1d 104a0 8 104aa 1d 104b0 0 104d4 1d 104d8 1
    104fc 1d 10500 4 10528 1d 10530 4 10564 1d 1056f 11 10570 0 1057b 1d 1057c 0 1058b 1d 1058c
    0 10593 1d 10594 0 10596 1d 10597 1 105a2 1d 105a3 1 105b2 1d 105b3 1 105ba 1d 105bb 1 105bd
    1d 10600 4 10737 1d 10740 4 10756 1d 10760 4 10768 1d 10780 3 10786 1d 10787 3 107b1 1d
    107b2 3 107bb 1d 10800 4 10806 1d 10808 4 10809 1d 1080a 4 10836 1d 10837 4 10839 1d 1083c 4
    1083d 1d 1083f 4 10856 1d 10857 11 10858 a 10860 4 10877 15 10879 a 10880 4 1089f 1d 108a7 a
    108b0 1d 108e0 4 108f3 1d 108f4 4 108f6 1d 108fb a 10900 4 10916 a 1091c 1d 1091f 11 10920 4
    1093a 1d 1093f 11 10940 1d 10980 4 109b8 1d 109bc a 109be 4 109c0 a 109d0 1d 109d2 a 10a00 4
    10a01 5 10a04 1d 10a05 5 10a07 1d 10a0c 5 10a10 4 10a14 1d 10a15 4 10a18 1d 10a19 4 10a36 1d
    10a38 5 10a3b 1d 10a3f 5 10a40 a 10a49 1d 10a50 11 10a59 1d 10a60 4 10a7d a 10a7f 11 10a80 4
    10a9d a 10aa0 1d 10ac0 4 10ac8 15 10ac9 4 10ae5 5 10ae7 1d 10aeb a 10af0 11 10af7 1d 10b00 4
    10b36 1d 10b39 11 10b40 4 10b56 1d 10b58 a 10b60 4 10b73 1d 10b78 a 10b80 4 10b92 1d 10b99
    11 10b9d 1d 10ba9 a 10bb0 1d 10c00 4 10c49 1d 10c80 0 10cb3 1d 10cc0 1 10cf3 1d 10cfa a
    10d00 4 10d24 5 10d28 1d 10d30 8 10d3a 1d 10e60 a 10e7f 1d 10e80 4 10eaa 1d 10eab 5 10ead c
    10eae 1d 10eb0 4 10eb2 1d 10f00 4 10f1d a 10f27 4 10f28 1d 10f30 4 10f46 5 10f51 a 10f55 11
    10f5a 1d 10f70 4 10f82 5 10f86 11 10f8a 1d 10fb0 4 10fc5 a 10fcc 1d 10fe0 4 10ff7 1d 11000 6
    11001 5 11002 6 11003 4 11038 5 11047 11 1104e 1d 11052 a 11066 8 11070 5 11071 4 11073 5
    11075 4 11076 1d 1107f 5 11082 6 11083 4 110b0 6 110b3 5 110b7 6 110b9 5 110bb 11 110bd 1a
    110be 11 110c2 5 110c3 1d 110cd 1a 110ce 1d 110d0 4 110e9 1d 110f0 8 110fa 1d 11100 5 11103
    4 11127 5 1112c 6 1112d 5 11135 1d 11136 8 11140 11 11144 4 11145 6 11147 4 11148 1d 11150 4
    11173 5 11174 11 11176 4 11177 1d 11180 5 11182 6 11183 4 111b3 6 111b6 5 111bf 6 111c1 4
    111c5 11 111c9 5 111cd 11 111ce 6 111cf 5 111d0 8 111da 4 111db 11 111dc 4 111dd 11 111e0 1d
    111e1 a 111f5 1d 11200 4 11212 1d 11213 4 1122c 6 1122f 5 11232 6 11234 5 11235 6 11236 5
    11238 11 1123e 5 1123f 1d 11280 4 11287 1d 11288 4 11289 1d 1128a 4 1128e 1d 1128f 4 1129e
    1d 1129f 4 112a9 11 112aa 1d 112b0 4 112df 5 112e0 6 112e3 5 112eb 1d 112f0 8 112fa 1d 11300
    5 11302 6 11304 1d 11305 4 1130d 1d 1130f 4 11311 1d 11313 4 11329 1d 1132a 4 11331 1d 11332
    4 11334 1d 11335 4 1133a 1d 1133b 5 1133d 4 1133e 6 11340 5 11341 6 11345 1d 11347 6 11349
    1d 1134b 6 1134e 1d 11350 4 11351 1d 11357 6 11358 1d 1135d 4 11362 6 11364 1d 11366 5 1136d
    1d 11370 5 11375 1d 11400 4 11435 6 11438 5 11440 6 11442 5 11445 6 11446 5 11447 4 1144b 11
    11450 8 1145a 11 1145c 1d 1145d 11 1145e 5 1145f 4 11462 1d 11480 4 114b0 6 114b3 5 114b9 6
    114ba 5 114bb 6 114bf 5 114c1 6 114c2 5 114c4 4 114c6 11 114c7 4 114c8 1d 114d0 8 114da 1d
    11580 4 115af 6 115b2 5 115b6 1d 115b8 6 115bc 5 115be 6 115bf 5 115c1 11 115d8 4 115dc 5
    115de 1d 11600 4 11630 6 11633 5 1163b 6 1163d 5 1163e 6 1163f 5 11641 11 11644 4 11645 1d
    11650 8 1165a 1d 11660 11 1166d 1d 11680 4 116ab 5 116ac 6 116ad 5 116ae 6 116b0 5 116b6 6
    116b7 5 116b8 4 116b9 11 116ba 1d 116c0 8 116ca 1d 11700 4 1171b 1d 1171d 5 11720 6 11722 5
    11726 6 11727 5 1172c 1d 11730 8 1173a a 1173c 11 1173f 15 11740 4 11747 1d 11800 4 1182c 6
    1182f 5 11838 6 11839 5 1183b 11 1183c 1d 118a0 0 118c0 1 118e0 8 118ea a 118f3 1d 118ff 4
    11907 1d 11909 4 1190a 1d 1190c 4 11914 1d 11915 4 11917 1d 11918 4 11930 6 11936 1d 11937 6
    11939 1d 1193b 5 1193d 6 1193e 5 1193f 4 11940 6 11941 4 11942 6 11943 5 11944 11 11947 1d
    11950 8 1195a 1d 119a0 4 119a8 1d 119aa 4 119d1 6 119d4 5 119d8 1d 119da 5 119dc 6 119e0 5
    119e1 4 119e2 11 119e3 4 119e4 6 119e5 1d 11a00 4 11a01 5 11a0b 4 11a33 5 11a39 6 11a3a 4
    11a3b 5 11a3f 11 11a47 5 11a48 1d 11a50 4 11a51 5 11a57 6 11a59 5 11a5c 4 11a8a 5 11a97 6
    11a98 5 11a9a 11 11a9d 4 11a9e 11 11aa3 1d 11ab0 4 11af9 1d 11c00 4 11c09 1d 11c0a 4 11c2f 6
    11c30 5 11c37 1d 11c38 5 11c3e 6 11c3f 5 11c40 4 11c41 11 11c46 1d 11c50 8 11c5a a 11c6d 1d
    11c70 11 11c72 4 11c90 1d 11c92 5 11ca8 1d 11ca9 6 11caa 5 11cb1 6 11cb2 5 11cb4 6 11cb5 5
    11cb7 1d 11d00 4 11d07 1d 11d08 4 11d0a 1d 11d0b 4 11d31 5 11d37 1d 11d3a 5 11d3b 1d 11d3c 5
    11d3e 1d 11d3f 5 11d46 4 11d47 5 11d48 1d 11d50 8 11d5a 1d 11d60 4 11d66 1d 11d67 4 11d69 1d
    11d6a 4 11d8a 6 11d8f 1d 11d90 5 11d92 1d 11d93 6 11d95 5 11d96 6 11d97 5 11d98 4 11d99 1d
    11da0 8 11daa 1d 11ee0 4 11ef3 5 11ef5 6 11ef7 11 11ef9 1d 11fb0 4 11fb1 1d 11fc0 a 11fd5 15
    11fdd 13 11fe1 15 11ff2 1d 11fff 11 12000 4 1239a 1d 12400 9 1246f 1d 12470 11 12475 1d
    12480 4 12544 1d 12f90 4 12ff1 11 12ff3 1d 13000 4 1342f 1d 13430 1a 13439 1d 14400 4 14647
    1d 16800 4 16a39 1d 16a40 4 16a5f 1d 16a60 8 16a6a 1d 16a6e 11 16a70 4 16abf 1d 16ac0 8
    16aca 1d 16ad0 4 16aee 1d 16af0 5 16af5 11 16af6 1d 16b00 4 16b30 5 16b37 11 16b3c 15 16b40
    3 16b44 11 16b45 15 16b46 1d 16b50 8 16b5a 1d 16b5b a 16b62 1d 16b63 4 16b78 1d 16b7d 4
    16b90 1d 16e40 0 16e60 1 16e80 a 16e97 11 16e9b 1d 16f00 4 16f4b 1d 16f4f 5 16f50 4 16f51 6
    16f88 1d 16f8f 5 16f93 3 16fa0 1d 16fe0 3 16fe2 11 16fe3 3 16fe4 5 16fe5 1d 16ff0 6 16ff2 1d
    17000 4 187f8 1d 18800 4 18cd6 1d 18d00 4 18d09 1d 1aff0 3 1aff4 1d 1aff5 3 1affc 1d 1affd 3
    1afff 1d 1b000 4 1b123 1d 1b150 4 1b153 1d 1b164 4 1b168 1d 1b170 4 1b2fc 1d 1bc00 4 1bc6b
    1d 1bc70 4 1bc7d 1d 1bc80 4 1bc89 1d 1bc90 4 1bc9a 1d 1bc9c 15 1bc9d 5 1bc9f 11 1bca0 1a
    1bca4 1d 1cf00 5 1cf2e 1d 1cf30 5 1cf47 1d 1cf50 15 1cfc4 1d 1d000 15 1d0f6 1d 1d100 15
    1d127 1d 1d129 15 1d165 6 1d167 5 1d16a 15 1d16d 6 1d173 1a 1d17b 5 1d183 15 1d185 5 1d18c
    15 1d1aa 5 1d1ae 15 1d1eb 1d 1d200 15 1d242 5 1d245 15 1d246 1d 1d2e0 a 1d2f4 1d 1d300 15
    1d357 1d 1d360 a 1d379 1d 1d400 0 1d41a 1 1d434 0 1d44e 1 1d455 1d 1d456 1 1d468 0 1d482 1
    1d49c 0 1d49d 1d 1d49e 0 1d4a0 1d 1d4a2 0 1d4a3 1d 1d4a5 0 1d4a7 1d 1d4a9 0 1d4ad 1d 1d4ae 0
    1d4b6 1 1d4ba 1d 1d4bb 1 1d4bc 1d 1d4bd 1 1d4c4 1d 1d4c5 1 1d4d0 0 1d4ea 1 1d504 0 1d506 1d
    1d507 0 1d50b 1d 1d50d 0 1d515 1d 1d516 0 1d51d 1d 1d51e 1 1d538 0 1d53a 1d 1d53b 0 1d53f 1d
    1d540 0 1d545 1d 1d546 0 1d547 1d 1d54a 0 1d551 1d 1d552 1 1d56c 0 1d586 1 1d5a0 0 1d5ba 1
    1d5d4 0 1d5ee 1 1d608 0 1d622 1 1d63c 0 1d656 1 1d670 0 1d68a 1 1d6a6 1d 1d6a8 0 1d6c1 12
    1d6c2 1 1d6db 12 1d6dc 1 1d6e2 0 1d6fb 12 1d6fc 1 1d715 12 1d716 1 1d71c 0 1d735 12 1d736 1
    1d74f 12 1d750 1 1d756 0 1d76f 12 1d770 1 1d789 12 1d78a 1 1d790 0 1d7a9 12 1d7aa 1 1d7c3 12
    1d7c4 1 1d7ca 0 1d7cb 1 1d7cc 1d 1d7ce 8 1d800 15 1da00 5 1da37 15 1da3b 5 1da6d 15 1da75 5
    1da76 15 1da84 5 1da85 15 1da87 11 1da8c 1d 1da9b 5 1daa0 1d 1daa1 5 1dab0 1d 1df00 1 1df0a
    4 1df0b 1 1df1f 1d 1e000 5 1e007 1d 1e008 5 1e019 1d 1e01b 5 1e022 1d 1e023 5 1e025 1d 1e026
    5 1e02b 1d 1e100 4 1e12d 1d 1e130 5 1e137 3 1e13e 1d 1e140 8 1e14a 1d 1e14e 4 1e14f 15 1e150
    1d 1e290 4 1e2ae 5 1e2af 1d 1e2c0 4 1e2ec 5 1e2f0 8 1e2fa 1d 1e2ff 13 1e300 1d 1e7e0 4 1e7e7
    1d 1e7e8 4 1e7ec 1d 1e7ed 4 1e7ef 1d 1e7f0 4 1e7ff 1d 1e800 4 1e8c5 1d 1e8c7 a 1e8d0 5 1e8d7
    1d 1e900 0 1e922 1 1e944 5 1e94b 3 1e94c 1d 1e950 8 1e95a 1d 1e95e 11 1e960 1d 1ec71 a 1ecac
    15 1ecad a 1ecb0 13 1ecb1 a 1ecb5 1d 1ed01 a 1ed2e 15 1ed2f a 1ed3e 1d 1ee00 4 1ee04 1d
    1ee05 4 1ee20 1d 1ee21 4 1ee23 1d 1ee24 4 1ee25 1d 1ee27 4 1ee28 1d 1ee29 4 1ee33 1d 1ee34 4
    1ee38 1d 1ee39 4 1ee3a 1d 1ee3b 4 1ee3c 1d 1ee42 4 1ee43 1d 1ee47 4 1ee48 1d 1ee49 4 1ee4a
    1d 1ee4b 4 1ee4c 1d 1ee4d 4 1ee50 1d 1ee51 4 1ee53 1d 1ee54 4 1ee55 1d 1ee57 4 1ee58 1d
    1ee59 4 1ee5a 1d 1ee5b 4 1ee5c 1d 1ee5d 4 1ee5e 1d 1ee5f 4 1ee60 1d 1ee61 4 1ee63 1d 1ee64 4
    1ee65 1d 1ee67 4 1ee6b 1d 1ee6c 4 1ee73 1d 1ee74 4 1ee78 1d 1ee79 4 1ee7d 1d 1ee7e 4 1ee7f
    1d 1ee80 4 1ee8a 1d 1ee8b 4 1ee9c 1d 1eea1 4 1eea4 1d 1eea5 4 1eeaa 1d 1eeab 4 1eebc 1d
    1eef0 12 1eef2 1d 1f000 15 1f02c 1d 1f030 15 1f094 1d 1f0a0 15 1f0af 1d 1f0b1 15 1f0c0 1d
    1f0c1 15 1f0d0 1d 1f0d1 15 1f0f6 1d 1f100 a 1f10d 15 1f1ae 1d 1f1e6 15 1f203 1d 1f210 15
    1f23c 1d 1f240 15 1f249 1d 1f250 15 1f252 1d 1f260 15 1f266 1d 1f300 15 1f3fb 14 1f400 15
    1f6d8 1d 1f6dd 15 1f6ed 1d 1f6f0 15 1f6fd 1d 1f700 15 1f774 1d 1f780 15 1f7d9 1d 1f7e0 15
    1f7ec 1d 1f7f0 15 1f7f1 1d 1f800 15 1f80c 1d 1f810 15 1f848 1d 1f850 15 1f85a 1d 1f860 15
    1f888 1d 1f890 15 1f8ae 1d 1f8b0 15 1f8b2 1d 1f900 15 1fa54 1d 1fa60 15 1fa6e 1d 1fa70 15
    1fa75 1d 1fa78 15 1fa7d 1d 1fa80 15 1fa87 1d 1fa90 15 1faad 1d 1fab0 15 1fabb 1d 1fac0 15
    1fac6 1d 1fad0 15 1fada 1d 1fae0 15 1fae8 1d 1faf0 15 1faf7 1d 1fb00 15 1fb93 1d 1fb94 15
    1fbcb 1d 1fbf0 8 1fbfa 1d 20000 4 2a6e0 1d 2a700 4 2b739 1d 2b740 4 2b81e 1d 2b820 4 2cea2
    1d 2ceb0 4 2ebe1 1d 2f800 4 2fa1e 1d 30000 4 3134b 1d e0001 1a e0002 1d e0020 1a e0080 1d
    e0100 5 e01f0 1d f0000 1c ffffe 1d 100000 1c 10fffe 1d"

end EntityCatalog.Text
