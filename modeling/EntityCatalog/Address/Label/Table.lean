namespace EntityCatalog.Address

def validTable : String :=
    "2d 2d 30 39 61 7a df f6 f8 ff 101 101 103 103 105 105 107 107 109 109 10b 10b 10d 10d 10f
    10f 111 111 113 113 115 115 117 117 119 119 11b 11b 11d 11d 11f 11f 121 121 123 123 125 125
    127 127 129 129 12b 12b 12d 12d 12f 12f 131 131 135 135 137 138 13a 13a 13c 13c 13e 13e 142
    142 144 144 146 146 148 148 14b 14b 14d 14d 14f 14f 151 151 153 153 155 155 157 157 159 159
    15b 15b 15d 15d 15f 15f 161 161 163 163 165 165 167 167 169 169 16b 16b 16d 16d 16f 16f 171
    171 173 173 175 175 177 177 17a 17a 17c 17c 17e 17e 180 180 183 183 185 185 188 188 18c 18d
    192 192 195 195 199 19b 19e 19e 1a1 1a1 1a3 1a3 1a5 1a5 1a8 1a8 1aa 1ab 1ad 1ad 1b0 1b0 1b4
    1b4 1b6 1b6 1b9 1bb 1bd 1c3 1ce 1ce 1d0 1d0 1d2 1d2 1d4 1d4 1d6 1d6 1d8 1d8 1da 1da 1dc 1dd
    1df 1df 1e1 1e1 1e3 1e3 1e5 1e5 1e7 1e7 1e9 1e9 1eb 1eb 1ed 1ed 1ef 1f0 1f5 1f5 1f9 1f9 1fb
    1fb 1fd 1fd 1ff 1ff 201 201 203 203 205 205 207 207 209 209 20b 20b 20d 20d 20f 20f 211 211
    213 213 215 215 217 217 219 219 21b 21b 21d 21d 21f 21f 221 221 223 223 225 225 227 227 229
    229 22b 22b 22d 22d 22f 22f 231 231 233 239 23c 23c 23f 240 242 242 247 247 249 249 24b 24b
    24d 24d 24f 2af 2b9 2c1 2c6 2d1 2ec 2ec 2ee 2ee 300 33f 342 342 346 34e 350 36f 371 371 373
    373 377 377 37b 37d 390 390 3ac 3ce 3d7 3d7 3d9 3d9 3db 3db 3dd 3dd 3df 3df 3e1 3e1 3e3 3e3
    3e5 3e5 3e7 3e7 3e9 3e9 3eb 3eb 3ed 3ed 3ef 3ef 3f3 3f3 3f8 3f8 3fb 3fc 430 45f 461 461 463
    463 465 465 467 467 469 469 46b 46b 46d 46d 46f 46f 471 471 473 473 475 475 477 477 479 479
    47b 47b 47d 47d 47f 47f 481 481 483 487 48b 48b 48d 48d 48f 48f 491 491 493 493 495 495 497
    497 499 499 49b 49b 49d 49d 49f 49f 4a1 4a1 4a3 4a3 4a5 4a5 4a7 4a7 4a9 4a9 4ab 4ab 4ad 4ad
    4af 4af 4b1 4b1 4b3 4b3 4b5 4b5 4b7 4b7 4b9 4b9 4bb 4bb 4bd 4bd 4bf 4bf 4c2 4c2 4c4 4c4 4c6
    4c6 4c8 4c8 4ca 4ca 4cc 4cc 4ce 4cf 4d1 4d1 4d3 4d3 4d5 4d5 4d7 4d7 4d9 4d9 4db 4db 4dd 4dd
    4df 4df 4e1 4e1 4e3 4e3 4e5 4e5 4e7 4e7 4e9 4e9 4eb 4eb 4ed 4ed 4ef 4ef 4f1 4f1 4f3 4f3 4f5
    4f5 4f7 4f7 4f9 4f9 4fb 4fb 4fd 4fd 4ff 4ff 501 501 503 503 505 505 507 507 509 509 50b 50b
    50d 50d 50f 50f 511 511 513 513 515 515 517 517 519 519 51b 51b 51d 51d 51f 51f 521 521 523
    523 525 525 527 527 529 529 52b 52b 52d 52d 52f 52f 559 559 560 586 588 588 591 5bd 5bf 5bf
    5c1 5c2 5c4 5c5 5c7 5c7 5d0 5ea 5ef 5f2 610 61a 620 63f 641 65f 66e 674 679 6d3 6d5 6dc 6df
    6e8 6ea 6ef 6fa 6ff 710 74a 74d 7b1 7c0 7f5 7fd 7fd 800 82d 840 85b 860 86a 870 887 889 88f
    897 8e1 8e3 957 960 963 966 96f 971 983 985 98c 98f 990 993 9a8 9aa 9b0 9b2 9b2 9b6 9b9 9bc
    9c4 9c7 9c8 9cb 9ce 9d7 9d7 9e0 9e3 9e6 9f1 9fc 9fc 9fe 9fe a01 a03 a05 a0a a0f a10 a13 a28
    a2a a30 a32 a32 a35 a35 a38 a39 a3c a3c a3e a42 a47 a48 a4b a4d a51 a51 a5c a5c a66 a75 a81
    a83 a85 a8d a8f a91 a93 aa8 aaa ab0 ab2 ab3 ab5 ab9 abc ac5 ac7 ac9 acb acd ad0 ad0 ae0 ae3
    ae6 aef af9 aff b01 b03 b05 b0c b0f b10 b13 b28 b2a b30 b32 b33 b35 b39 b3c b44 b47 b48 b4b
    b4d b55 b57 b5f b63 b66 b6f b71 b71 b82 b83 b85 b8a b8e b90 b92 b95 b99 b9a b9c b9c b9e b9f
    ba3 ba4 ba8 baa bae bb9 bbe bc2 bc6 bc8 bca bcd bd0 bd0 bd7 bd7 be6 bef c00 c0c c0e c10 c12
    c28 c2a c39 c3c c44 c46 c48 c4a c4d c55 c56 c58 c5a c5c c5d c60 c63 c66 c6f c80 c83 c85 c8c
    c8e c90 c92 ca8 caa cb3 cb5 cb9 cbc cc4 cc6 cc8 cca ccd cd5 cd6 cdc cde ce0 ce3 ce6 cef cf1
    cf3 d00 d0c d0e d10 d12 d44 d46 d48 d4a d4e d54 d57 d5f d63 d66 d6f d7a d7f d81 d83 d85 d96
    d9a db1 db3 dbb dbd dbd dc0 dc6 dca dca dcf dd4 dd6 dd6 dd8 ddf de6 def df2 df3 e01 e32 e34
    e3a e40 e4e e50 e59 e81 e82 e84 e84 e86 e8a e8c ea3 ea5 ea5 ea7 eb2 eb4 ebd ec0 ec4 ec6 ec6
    ec8 ece ed0 ed9 ede edf f00 f00 f0b f0b f18 f19 f20 f29 f35 f35 f37 f37 f39 f39 f3e f42 f44
    f47 f49 f4c f4e f51 f53 f56 f58 f5b f5d f68 f6a f6c f71 f72 f74 f74 f7a f80 f82 f84 f86 f92
    f94 f97 f99 f9c f9e fa1 fa3 fa6 fa8 fab fad fb8 fba fbc fc6 fc6 1000 1049 1050 109d 10d0
    10fa 10fd 10ff 1200 1248 124a 124d 1250 1256 1258 1258 125a 125d 1260 1288 128a 128d 1290
    12b0 12b2 12b5 12b8 12be 12c0 12c0 12c2 12c5 12c8 12d6 12d8 1310 1312 1315 1318 135a 135d
    135f 1380 138f 13a0 13f5 1401 166c 166f 167f 1681 169a 16a0 16ea 16f1 16f8 1700 1715 171f
    1734 1740 1753 1760 176c 176e 1770 1772 1773 1780 17b3 17b6 17d3 17d7 17d7 17dc 17dd 17e0
    17e9 1810 1819 1820 1878 1880 18aa 18b0 18f5 1900 191e 1920 192b 1930 193b 1946 196d 1970
    1974 1980 19ab 19b0 19c9 19d0 19d9 1a00 1a1b 1a20 1a5e 1a60 1a7c 1a7f 1a89 1a90 1a99 1aa7
    1aa7 1ab0 1abd 1abf 1add 1ae0 1aeb 1b00 1b4c 1b50 1b59 1b6b 1b73 1b80 1bf3 1c00 1c37 1c40
    1c49 1c4d 1c7d 1c8a 1c8a 1cd0 1cd2 1cd4 1cfa 1d00 1d2b 1d2f 1d2f 1d3b 1d3b 1d4e 1d4e 1d6b
    1d77 1d79 1d9a 1dc0 1dff 1e01 1e01 1e03 1e03 1e05 1e05 1e07 1e07 1e09 1e09 1e0b 1e0b 1e0d
    1e0d 1e0f 1e0f 1e11 1e11 1e13 1e13 1e15 1e15 1e17 1e17 1e19 1e19 1e1b 1e1b 1e1d 1e1d 1e1f
    1e1f 1e21 1e21 1e23 1e23 1e25 1e25 1e27 1e27 1e29 1e29 1e2b 1e2b 1e2d 1e2d 1e2f 1e2f 1e31
    1e31 1e33 1e33 1e35 1e35 1e37 1e37 1e39 1e39 1e3b 1e3b 1e3d 1e3d 1e3f 1e3f 1e41 1e41 1e43
    1e43 1e45 1e45 1e47 1e47 1e49 1e49 1e4b 1e4b 1e4d 1e4d 1e4f 1e4f 1e51 1e51 1e53 1e53 1e55
    1e55 1e57 1e57 1e59 1e59 1e5b 1e5b 1e5d 1e5d 1e5f 1e5f 1e61 1e61 1e63 1e63 1e65 1e65 1e67
    1e67 1e69 1e69 1e6b 1e6b 1e6d 1e6d 1e6f 1e6f 1e71 1e71 1e73 1e73 1e75 1e75 1e77 1e77 1e79
    1e79 1e7b 1e7b 1e7d 1e7d 1e7f 1e7f 1e81 1e81 1e83 1e83 1e85 1e85 1e87 1e87 1e89 1e89 1e8b
    1e8b 1e8d 1e8d 1e8f 1e8f 1e91 1e91 1e93 1e93 1e95 1e99 1e9c 1e9d 1e9f 1e9f 1ea1 1ea1 1ea3
    1ea3 1ea5 1ea5 1ea7 1ea7 1ea9 1ea9 1eab 1eab 1ead 1ead 1eaf 1eaf 1eb1 1eb1 1eb3 1eb3 1eb5
    1eb5 1eb7 1eb7 1eb9 1eb9 1ebb 1ebb 1ebd 1ebd 1ebf 1ebf 1ec1 1ec1 1ec3 1ec3 1ec5 1ec5 1ec7
    1ec7 1ec9 1ec9 1ecb 1ecb 1ecd 1ecd 1ecf 1ecf 1ed1 1ed1 1ed3 1ed3 1ed5 1ed5 1ed7 1ed7 1ed9
    1ed9 1edb 1edb 1edd 1edd 1edf 1edf 1ee1 1ee1 1ee3 1ee3 1ee5 1ee5 1ee7 1ee7 1ee9 1ee9 1eeb
    1eeb 1eed 1eed 1eef 1eef 1ef1 1ef1 1ef3 1ef3 1ef5 1ef5 1ef7 1ef7 1ef9 1ef9 1efb 1efb 1efd
    1efd 1eff 1f07 1f10 1f15 1f20 1f27 1f30 1f37 1f40 1f45 1f50 1f57 1f60 1f67 1f70 1f70 1f72
    1f72 1f74 1f74 1f76 1f76 1f78 1f78 1f7a 1f7a 1f7c 1f7c 1fb0 1fb1 1fb6 1fb6 1fc6 1fc6 1fd0
    1fd2 1fd6 1fd7 1fe0 1fe2 1fe4 1fe7 1ff6 1ff6 214e 214e 2184 2184 2c30 2c5f 2c61 2c61 2c65
    2c66 2c68 2c68 2c6a 2c6a 2c6c 2c6c 2c71 2c71 2c73 2c74 2c76 2c7b 2c81 2c81 2c83 2c83 2c85
    2c85 2c87 2c87 2c89 2c89 2c8b 2c8b 2c8d 2c8d 2c8f 2c8f 2c91 2c91 2c93 2c93 2c95 2c95 2c97
    2c97 2c99 2c99 2c9b 2c9b 2c9d 2c9d 2c9f 2c9f 2ca1 2ca1 2ca3 2ca3 2ca5 2ca5 2ca7 2ca7 2ca9
    2ca9 2cab 2cab 2cad 2cad 2caf 2caf 2cb1 2cb1 2cb3 2cb3 2cb5 2cb5 2cb7 2cb7 2cb9 2cb9 2cbb
    2cbb 2cbd 2cbd 2cbf 2cbf 2cc1 2cc1 2cc3 2cc3 2cc5 2cc5 2cc7 2cc7 2cc9 2cc9 2ccb 2ccb 2ccd
    2ccd 2ccf 2ccf 2cd1 2cd1 2cd3 2cd3 2cd5 2cd5 2cd7 2cd7 2cd9 2cd9 2cdb 2cdb 2cdd 2cdd 2cdf
    2cdf 2ce1 2ce1 2ce3 2ce4 2cec 2cec 2cee 2cf1 2cf3 2cf3 2d00 2d25 2d27 2d27 2d2d 2d2d 2d30
    2d67 2d7f 2d96 2da0 2da6 2da8 2dae 2db0 2db6 2db8 2dbe 2dc0 2dc6 2dc8 2dce 2dd0 2dd6 2dd8
    2dde 2de0 2dff 2e2f 2e2f 3005 3007 302a 302d 303c 303c 3041 3096 3099 309a 309d 309e 30a1
    30fa 30fc 30fe 3105 312f 31a0 31bf 31f0 31ff 3400 4dbf 4e00 a48c a4d0 a4fd a500 a60c a610
    a62b a641 a641 a643 a643 a645 a645 a647 a647 a649 a649 a64b a64b a64d a64d a64f a64f a651
    a651 a653 a653 a655 a655 a657 a657 a659 a659 a65b a65b a65d a65d a65f a65f a661 a661 a663
    a663 a665 a665 a667 a667 a669 a669 a66b a66b a66d a66f a674 a67d a67f a67f a681 a681 a683
    a683 a685 a685 a687 a687 a689 a689 a68b a68b a68d a68d a68f a68f a691 a691 a693 a693 a695
    a695 a697 a697 a699 a699 a69b a69b a69e a6e5 a6f0 a6f1 a717 a71f a723 a723 a725 a725 a727
    a727 a729 a729 a72b a72b a72d a72d a72f a731 a733 a733 a735 a735 a737 a737 a739 a739 a73b
    a73b a73d a73d a73f a73f a741 a741 a743 a743 a745 a745 a747 a747 a749 a749 a74b a74b a74d
    a74d a74f a74f a751 a751 a753 a753 a755 a755 a757 a757 a759 a759 a75b a75b a75d a75d a75f
    a75f a761 a761 a763 a763 a765 a765 a767 a767 a769 a769 a76b a76b a76d a76d a76f a76f a771
    a778 a77a a77a a77c a77c a77f a77f a781 a781 a783 a783 a785 a785 a787 a788 a78c a78c a78e
    a78f a791 a791 a793 a795 a797 a797 a799 a799 a79b a79b a79d a79d a79f a79f a7a1 a7a1 a7a3
    a7a3 a7a5 a7a5 a7a7 a7a7 a7a9 a7a9 a7af a7af a7b5 a7b5 a7b7 a7b7 a7b9 a7b9 a7bb a7bb a7bd
    a7bd a7bf a7bf a7c1 a7c1 a7c3 a7c3 a7c8 a7c8 a7ca a7ca a7cd a7cd a7cf a7cf a7d1 a7d1 a7d3
    a7d3 a7d5 a7d5 a7d7 a7d7 a7d9 a7d9 a7db a7db a7f6 a7f7 a7fa a827 a82c a82c a840 a873 a880
    a8c5 a8d0 a8d9 a8e0 a8f7 a8fb a8fb a8fd a92d a930 a953 a980 a9c0 a9cf a9d9 a9e0 a9fe aa00
    aa36 aa40 aa4d aa50 aa59 aa60 aa76 aa7a aac2 aadb aadd aae0 aaef aaf2 aaf6 ab01 ab06 ab09
    ab0e ab11 ab16 ab20 ab26 ab28 ab2e ab30 ab5a ab60 ab68 abc0 abea abec abed abf0 abf9 ac00
    d7a3 fa0e fa0f fa11 fa11 fa13 fa14 fa1f fa1f fa21 fa21 fa23 fa24 fa27 fa29 fb1e fb1e fe20
    fe2f fe73 fe73 10000 1000b 1000d 10026 10028 1003a 1003c 1003d 1003f 1004d 10050 1005d 10080
    100fa 101fd 101fd 10280 1029c 102a0 102d0 102e0 102e0 10300 1031f 1032d 10340 10342 10349
    10350 1037a 10380 1039d 103a0 103c3 103c8 103cf 10428 1049d 104a0 104a9 104d8 104fb 10500
    10527 10530 10563 10597 105a1 105a3 105b1 105b3 105b9 105bb 105bc 105c0 105f3 10600 10736
    10740 10755 10760 10767 10780 10780 10800 10805 10808 10808 1080a 10835 10837 10838 1083c
    1083c 1083f 10855 10860 10876 10880 1089e 108e0 108f2 108f4 108f5 10900 10915 10920 10939
    10940 10959 10980 109b7 109be 109bf 10a00 10a03 10a05 10a06 10a0c 10a13 10a15 10a17 10a19
    10a35 10a38 10a3a 10a3f 10a3f 10a60 10a7c 10a80 10a9c 10ac0 10ac7 10ac9 10ae6 10b00 10b35
    10b40 10b55 10b60 10b72 10b80 10b91 10c00 10c48 10cc0 10cf2 10d00 10d27 10d30 10d39 10d40
    10d4f 10d69 10d6d 10d6f 10d85 10e80 10ea9 10eab 10eac 10eb0 10eb1 10ec2 10ec7 10efa 10f1c
    10f27 10f27 10f30 10f50 10f70 10f85 10fb0 10fc4 10fe0 10ff6 11000 11046 11066 11075 1107f
    110ba 110c2 110c2 110d0 110e8 110f0 110f9 11100 11134 11136 1113f 11144 11147 11150 11173
    11176 11176 11180 111c4 111c9 111cc 111ce 111da 111dc 111dc 11200 11211 11213 11237 1123e
    11241 11280 11286 11288 11288 1128a 1128d 1128f 1129d 1129f 112a8 112b0 112ea 112f0 112f9
    11300 11303 11305 1130c 1130f 11310 11313 11328 1132a 11330 11332 11333 11335 11339 1133b
    11344 11347 11348 1134b 1134d 11350 11350 11357 11357 1135d 11363 11366 1136c 11370 11374
    11380 11389 1138b 1138b 1138e 1138e 11390 113b5 113b7 113c0 113c2 113c2 113c5 113c5 113c7
    113ca 113cc 113d3 113e1 113e2 11400 1144a 11450 11459 1145e 11461 11480 114c5 114c7 114c7
    114d0 114d9 11580 115b5 115b8 115c0 115d8 115dd 11600 11640 11644 11644 11650 11659 11680
    116b8 116c0 116c9 116d0 116e3 11700 1171a 1171d 1172b 11730 11739 11740 11746 11800 1183a
    118c0 118e9 118ff 11906 11909 11909 1190c 11913 11915 11916 11918 11935 11937 11938 1193b
    11943 11950 11959 119a0 119a7 119aa 119d7 119da 119e1 119e3 119e4 11a00 11a3e 11a47 11a47
    11a50 11a99 11a9d 11a9d 11ab0 11af8 11b60 11b67 11bc0 11be0 11bf0 11bf9 11c00 11c08 11c0a
    11c36 11c38 11c40 11c50 11c59 11c72 11c8f 11c92 11ca7 11ca9 11cb6 11d00 11d06 11d08 11d09
    11d0b 11d36 11d3a 11d3a 11d3c 11d3d 11d3f 11d47 11d50 11d59 11d60 11d65 11d67 11d68 11d6a
    11d8e 11d90 11d91 11d93 11d98 11da0 11da9 11db0 11ddb 11de0 11de9 11ee0 11ef6 11f00 11f10
    11f12 11f3a 11f3e 11f42 11f50 11f5a 11fb0 11fb0 12000 12399 12480 12543 12f90 12ff0 13000
    1342f 13440 13455 13460 143fa 14400 14646 16100 16139 16800 16a38 16a40 16a5e 16a60 16a69
    16a70 16abe 16ac0 16ac9 16ad0 16aed 16af0 16af4 16b00 16b36 16b40 16b43 16b50 16b59 16b63
    16b77 16b7d 16b8f 16d40 16d6c 16d70 16d79 16e60 16e7f 16ebb 16ed3 16f00 16f4a 16f4f 16f87
    16f8f 16f9f 16fe0 16fe1 16fe3 16fe4 16ff0 16ff3 17000 18cd5 18cff 18d1e 18d80 18df2 1aff0
    1aff3 1aff5 1affb 1affd 1affe 1b000 1b122 1b132 1b132 1b150 1b152 1b155 1b155 1b164 1b167
    1b170 1b2fb 1bc00 1bc6a 1bc70 1bc7c 1bc80 1bc88 1bc90 1bc99 1bc9d 1bc9e 1cf00 1cf2d 1cf30
    1cf46 1da00 1da36 1da3b 1da6c 1da75 1da75 1da84 1da84 1da9b 1da9f 1daa1 1daaf 1df00 1df1e
    1df25 1df2a 1e000 1e006 1e008 1e018 1e01b 1e021 1e023 1e024 1e026 1e02a 1e08f 1e08f 1e100
    1e12c 1e130 1e13d 1e140 1e149 1e14e 1e14e 1e290 1e2ae 1e2c0 1e2f9 1e4d0 1e4f9 1e5d0 1e5fa
    1e6c0 1e6de 1e6e0 1e6f5 1e6fe 1e6ff 1e7e0 1e7e6 1e7e8 1e7eb 1e7ed 1e7ee 1e7f0 1e7fe 1e800
    1e8c4 1e8d0 1e8d6 1e922 1e94b 1e950 1e959 20000 2a6df 2a700 2b81d 2b820 2cead 2ceb0 2ebe0
    2ebf0 2ee5d 30000 3134a 31350 33479"

def joinsLeftTable : String :=
    "a872 a872 10acd 10acd 10ad7 10ad7 10d00 10d00 10fcb 10fcb"

def joinsBothTable : String :=
    "620 620 626 626 628 628 62a 62e 633 63f 641 647 649 64a 66e 66f 678 687 69a 6bf 6c1 6c2 6cc
    6cc 6ce 6ce 6d0 6d1 6fa 6fc 6ff 6ff 712 714 71a 71d 71f 727 729 729 72b 72b 72d 72e 74e 758
    75c 76a 76d 770 772 772 775 777 77a 77f 7ca 7ea 841 845 848 848 84a 853 855 855 860 860 862
    865 868 868 886 886 889 88d 88f 88f 8a0 8a9 8af 8b0 8b3 8b8 8ba 8c8 1807 1807 1820 1878 1887
    18a8 18aa 18aa a840 a871 10ac0 10ac4 10ad3 10ad6 10ad8 10adc 10ade 10ae0 10aeb 10aee 10b80
    10b80 10b82 10b82 10b86 10b88 10b8a 10b8b 10b8d 10b8d 10b90 10b90 10bad 10bae 10d01 10d21
    10d23 10d23 10ec3 10ec4 10ec6 10ec7 10f30 10f32 10f34 10f44 10f51 10f53 10f70 10f73 10f76
    10f81 10fb0 10fb0 10fb2 10fb3 10fb8 10fb8 10fbb 10fbc 10fbe 10fbf 10fc1 10fc1 10fc4 10fc4
    10fca 10fca 1e900 1e943"

def joinsRightTable : String :=
    "622 625 627 627 629 629 62f 632 648 648 671 673 675 677 688 699 6c0 6c0 6c3 6cb 6cd 6cd 6cf
    6cf 6d2 6d3 6d5 6d5 6ee 6ef 710 710 715 719 71e 71e 728 728 72a 72a 72c 72c 72f 72f 74d 74d
    759 75b 76b 76c 771 771 773 774 778 779 840 840 846 847 849 849 854 854 856 858 867 867 869
    86a 870 882 88e 88e 8aa 8ac 8ae 8ae 8b1 8b2 8b9 8b9 10ac5 10ac5 10ac7 10ac7 10ac9 10aca
    10ace 10ad2 10add 10add 10ae1 10ae1 10ae4 10ae4 10aef 10aef 10b81 10b81 10b83 10b85 10b89
    10b89 10b8c 10b8c 10b8e 10b8f 10b91 10b91 10ba9 10bac 10d22 10d22 10ec2 10ec2 10f33 10f33
    10f54 10f54 10f74 10f75 10fb4 10fb6 10fb9 10fba 10fbd 10fbd 10fc2 10fc3 10fc9 10fc9"

def transparentTable : String :=
    "ad ad 300 36f 483 489 591 5bd 5bf 5bf 5c1 5c2 5c4 5c5 5c7 5c7 610 61a 61c 61c 64b 65f 670
    670 6d6 6dc 6df 6e4 6e7 6e8 6ea 6ed 70f 70f 711 711 730 74a 7a6 7b0 7eb 7f3 7fd 7fd 816 819
    81b 823 825 827 829 82d 859 85b 897 89f 8ca 8e1 8e3 902 93a 93a 93c 93c 941 948 94d 94d 951
    957 962 963 981 981 9bc 9bc 9c1 9c4 9cd 9cd 9e2 9e3 9fe 9fe a01 a02 a3c a3c a41 a42 a47 a48
    a4b a4d a51 a51 a70 a71 a75 a75 a81 a82 abc abc ac1 ac5 ac7 ac8 acd acd ae2 ae3 afa aff b01
    b01 b3c b3c b3f b3f b41 b44 b4d b4d b55 b56 b62 b63 b82 b82 bc0 bc0 bcd bcd c00 c00 c04 c04
    c3c c3c c3e c40 c46 c48 c4a c4d c55 c56 c62 c63 c81 c81 cbc cbc cbf cbf cc6 cc6 ccc ccd ce2
    ce3 d00 d01 d3b d3c d41 d44 d4d d4d d62 d63 d81 d81 dca dca dd2 dd4 dd6 dd6 e31 e31 e34 e3a
    e47 e4e eb1 eb1 eb4 ebc ec8 ece f18 f19 f35 f35 f37 f37 f39 f39 f71 f7e f80 f84 f86 f87 f8d
    f97 f99 fbc fc6 fc6 102d 1030 1032 1037 1039 103a 103d 103e 1058 1059 105e 1060 1071 1074
    1082 1082 1085 1086 108d 108d 109d 109d 135d 135f 1712 1714 1732 1733 1752 1753 1772 1773
    17b4 17b5 17b7 17bd 17c6 17c6 17c9 17d3 17dd 17dd 180b 180d 180f 180f 1885 1886 18a9 18a9
    1920 1922 1927 1928 1932 1932 1939 193b 1a17 1a18 1a1b 1a1b 1a56 1a56 1a58 1a5e 1a60 1a60
    1a62 1a62 1a65 1a6c 1a73 1a7c 1a7f 1a7f 1ab0 1add 1ae0 1aeb 1b00 1b03 1b34 1b34 1b36 1b3a
    1b3c 1b3c 1b42 1b42 1b6b 1b73 1b80 1b81 1ba2 1ba5 1ba8 1ba9 1bab 1bad 1be6 1be6 1be8 1be9
    1bed 1bed 1bef 1bf1 1c2c 1c33 1c36 1c37 1cd0 1cd2 1cd4 1ce0 1ce2 1ce8 1ced 1ced 1cf4 1cf4
    1cf8 1cf9 1dc0 1dff 200b 200b 200e 200f 202a 202e 2060 2064 206a 206f 20d0 20f0 2cef 2cf1
    2d7f 2d7f 2de0 2dff 302a 302d 3099 309a a66f a672 a674 a67d a69e a69f a6f0 a6f1 a802 a802
    a806 a806 a80b a80b a825 a826 a82c a82c a8c4 a8c5 a8e0 a8f1 a8ff a8ff a926 a92d a947 a951
    a980 a982 a9b3 a9b3 a9b6 a9b9 a9bc a9bd a9e5 a9e5 aa29 aa2e aa31 aa32 aa35 aa36 aa43 aa43
    aa4c aa4c aa7c aa7c aab0 aab0 aab2 aab4 aab7 aab8 aabe aabf aac1 aac1 aaec aaed aaf6 aaf6
    abe5 abe5 abe8 abe8 abed abed fb1e fb1e fe00 fe0f fe20 fe2f feff feff fff9 fffb 101fd 101fd
    102e0 102e0 10376 1037a 10a01 10a03 10a05 10a06 10a0c 10a0f 10a38 10a3a 10a3f 10a3f 10ae5
    10ae6 10d24 10d27 10d69 10d6d 10eab 10eac 10efa 10eff 10f46 10f50 10f82 10f85 11001 11001
    11038 11046 11070 11070 11073 11074 1107f 11081 110b3 110b6 110b9 110ba 110c2 110c2 11100
    11102 11127 1112b 1112d 11134 11173 11173 11180 11181 111b6 111be 111c9 111cc 111cf 111cf
    1122f 11231 11234 11234 11236 11237 1123e 1123e 11241 11241 112df 112df 112e3 112ea 11300
    11301 1133b 1133c 11340 11340 11366 1136c 11370 11374 113bb 113c0 113ce 113ce 113d0 113d0
    113d2 113d2 113e1 113e2 11438 1143f 11442 11444 11446 11446 1145e 1145e 114b3 114b8 114ba
    114ba 114bf 114c0 114c2 114c3 115b2 115b5 115bc 115bd 115bf 115c0 115dc 115dd 11633 1163a
    1163d 1163d 1163f 11640 116ab 116ab 116ad 116ad 116b0 116b5 116b7 116b7 1171d 1171d 1171f
    1171f 11722 11725 11727 1172b 1182f 11837 11839 1183a 1193b 1193c 1193e 1193e 11943 11943
    119d4 119d7 119da 119db 119e0 119e0 11a01 11a0a 11a33 11a38 11a3b 11a3e 11a47 11a47 11a51
    11a56 11a59 11a5b 11a8a 11a96 11a98 11a99 11b60 11b60 11b62 11b64 11b66 11b66 11c30 11c36
    11c38 11c3d 11c3f 11c3f 11c92 11ca7 11caa 11cb0 11cb2 11cb3 11cb5 11cb6 11d31 11d36 11d3a
    11d3a 11d3c 11d3d 11d3f 11d45 11d47 11d47 11d90 11d91 11d95 11d95 11d97 11d97 11ef3 11ef4
    11f00 11f01 11f36 11f3a 11f40 11f40 11f42 11f42 11f5a 11f5a 13430 13440 13447 13455 1611e
    16129 1612d 1612f 16af0 16af4 16b30 16b36 16f4f 16f4f 16f8f 16f92 16fe4 16fe4 1bc9d 1bc9e
    1bca0 1bca3 1cf00 1cf2d 1cf30 1cf46 1d167 1d169 1d173 1d182 1d185 1d18b 1d1aa 1d1ad 1d242
    1d244 1da00 1da36 1da3b 1da6c 1da75 1da75 1da84 1da84 1da9b 1da9f 1daa1 1daaf 1e000 1e006
    1e008 1e018 1e01b 1e021 1e023 1e024 1e026 1e02a 1e08f 1e08f 1e130 1e136 1e2ae 1e2ae 1e2ec
    1e2ef 1e4ec 1e4ef 1e5ee 1e5ef 1e6e3 1e6e3 1e6e6 1e6e6 1e6ee 1e6ef 1e6f5 1e6f5 1e8d0 1e8d6
    1e944 1e94b e0001 e0001 e0020 e007f e0100 e01ef"

def greekTable : String :=
    "370 373 375 377 37a 37d 37f 37f 384 384 386 386 388 38a 38c 38c 38e 3a1 3a3 3e1 3f0 3ff 1d26
    1d2a 1d5d 1d61 1d66 1d6a 1dbf 1dbf 1f00 1f15 1f18 1f1d 1f20 1f45 1f48 1f4d 1f50 1f57 1f59
    1f59 1f5b 1f5b 1f5d 1f5d 1f5f 1f7d 1f80 1fb4 1fb6 1fc4 1fc6 1fd3 1fd6 1fdb 1fdd 1fef 1ff2
    1ff4 1ff6 1ffe 2126 2126 ab65 ab65 10140 1018e 101a0 101a0 1d200 1d245"

def hebrewTable : String :=
    "591 5c7 5d0 5ea 5ef 5f4 fb1d fb36 fb38 fb3c fb3e fb3e fb40 fb41 fb43 fb44 fb46 fb4f"

def eastAsianTable : String :=
    "2e80 2e99 2e9b 2ef3 2f00 2fd5 3005 3005 3007 3007 3021 3029 3038 303b 3041 3096 309d 309f
    30a1 30fa 30fd 30ff 31f0 31ff 32d0 32fe 3300 3357 3400 4dbf 4e00 9fff f900 fa6d fa70 fad9
    ff66 ff6f ff71 ff9d 16fe2 16fe3 16ff0 16ff6 1aff0 1aff3 1aff5 1affb 1affd 1affe 1b000 1b122
    1b132 1b132 1b150 1b152 1b155 1b155 1b164 1b167 1f200 1f200 20000 2a6df 2a700 2b81d 2b820
    2cead 2ceb0 2ebe0 2ebf0 2ee5d 2f800 2fa1d 30000 3134a 31350 33479"

def directionTable : String :=
    "0 9 9 c a b b c c d d b e 9 1c b 1f c 20 d 21 8 23 7 26 8 2b 5 2c 6 2d 5 2e 6 30 4 3a 6 3b 8
    41 0 5b 8 61 0 7b 8 7f 9 85 b 86 9 a0 6 a1 8 a2 7 a6 8 aa 0 ab 8 ad 9 ae 8 b0 7 b2 4 b4 8 b5
    0 b6 8 b9 4 ba 0 bb 8 c0 0 d7 8 d8 0 f7 8 f8 0 2b9 8 2bb 0 2c2 8 2d0 0 2d2 8 2e0 0 2e5 8 2ee
    0 2ef 8 300 a 370 0 374 8 376 0 378 17 37a 0 37e 8 37f 0 380 17 384 8 386 0 387 8 388 0 38b
    17 38c 0 38d 17 38e 0 3a2 17 3a3 0 3f6 8 3f7 0 483 a 48a 0 530 17 531 0 557 17 559 0 58a 8
    58b 17 58d 8 58f 7 590 17 591 a 5be 1 5bf a 5c0 1 5c1 a 5c3 1 5c4 a 5c6 1 5c7 a 5c8 17 5d0 1
    5eb 17 5ef 1 5f5 17 600 3 606 8 608 2 609 7 60b 2 60c 6 60d 2 60e 8 610 a 61b 2 64b a 660 3
    66a 7 66b 3 66d 2 670 a 671 2 6d6 a 6dd 3 6de 8 6df a 6e5 2 6e7 a 6e9 8 6ea a 6ee 2 6f0 4
    6fa 2 70e 17 70f 2 711 a 712 2 730 a 74b 17 74d 2 7a6 a 7b1 2 7b2 17 7c0 1 7eb a 7f4 1 7f6 8
    7fa 1 7fb 17 7fd a 7fe 1 816 a 81a 1 81b a 824 1 825 a 828 1 829 a 82e 17 830 1 83f 17 840 1
    859 a 85c 17 85e 1 85f 17 860 2 86b 17 870 2 88f 17 890 3 892 17 898 a 8a0 2 8ca a 8e2 3 8e3
    a 903 0 93a a 93b 0 93c a 93d 0 941 a 949 0 94d a 94e 0 951 a 958 0 962 a 964 0 981 a 982 0
    984 17 985 0 98d 17 98f 0 991 17 993 0 9a9 17 9aa 0 9b1 17 9b2 0 9b3 17 9b6 0 9ba 17 9bc a
    9bd 0 9c1 a 9c5 17 9c7 0 9c9 17 9cb 0 9cd a 9ce 0 9cf 17 9d7 0 9d8 17 9dc 0 9de 17 9df 0 9e2
    a 9e4 17 9e6 0 9f2 7 9f4 0 9fb 7 9fc 0 9fe a 9ff 17 a01 a a03 0 a04 17 a05 0 a0b 17 a0f 0
    a11 17 a13 0 a29 17 a2a 0 a31 17 a32 0 a34 17 a35 0 a37 17 a38 0 a3a 17 a3c a a3d 17 a3e 0
    a41 a a43 17 a47 a a49 17 a4b a a4e 17 a51 a a52 17 a59 0 a5d 17 a5e 0 a5f 17 a66 0 a70 a
    a72 0 a75 a a76 0 a77 17 a81 a a83 0 a84 17 a85 0 a8e 17 a8f 0 a92 17 a93 0 aa9 17 aaa 0 ab1
    17 ab2 0 ab4 17 ab5 0 aba 17 abc a abd 0 ac1 a ac6 17 ac7 a ac9 0 aca 17 acb 0 acd a ace 17
    ad0 0 ad1 17 ae0 0 ae2 a ae4 17 ae6 0 af1 7 af2 17 af9 0 afa a b00 17 b01 a b02 0 b04 17 b05
    0 b0d 17 b0f 0 b11 17 b13 0 b29 17 b2a 0 b31 17 b32 0 b34 17 b35 0 b3a 17 b3c a b3d 0 b3f a
    b40 0 b41 a b45 17 b47 0 b49 17 b4b 0 b4d a b4e 17 b55 a b57 0 b58 17 b5c 0 b5e 17 b5f 0 b62
    a b64 17 b66 0 b78 17 b82 a b83 0 b84 17 b85 0 b8b 17 b8e 0 b91 17 b92 0 b96 17 b99 0 b9b 17
    b9c 0 b9d 17 b9e 0 ba0 17 ba3 0 ba5 17 ba8 0 bab 17 bae 0 bba 17 bbe 0 bc0 a bc1 0 bc3 17
    bc6 0 bc9 17 bca 0 bcd a bce 17 bd0 0 bd1 17 bd7 0 bd8 17 be6 0 bf3 8 bf9 7 bfa 8 bfb 17 c00
    a c01 0 c04 a c05 0 c0d 17 c0e 0 c11 17 c12 0 c29 17 c2a 0 c3a 17 c3c a c3d 0 c3e a c41 0
    c45 17 c46 a c49 17 c4a a c4e 17 c55 a c57 17 c58 0 c5b 17 c5d 0 c5e 17 c60 0 c62 a c64 17
    c66 0 c70 17 c77 0 c78 8 c7f 0 c81 a c82 0 c8d 17 c8e 0 c91 17 c92 0 ca9 17 caa 0 cb4 17 cb5
    0 cba 17 cbc a cbd 0 cc5 17 cc6 0 cc9 17 cca 0 ccc a cce 17 cd5 0 cd7 17 cdd 0 cdf 17 ce0 0
    ce2 a ce4 17 ce6 0 cf0 17 cf1 0 cf3 17 d00 a d02 0 d0d 17 d0e 0 d11 17 d12 0 d3b a d3d 0 d41
    a d45 17 d46 0 d49 17 d4a 0 d4d a d4e 0 d50 17 d54 0 d62 a d64 17 d66 0 d80 17 d81 a d82 0
    d84 17 d85 0 d97 17 d9a 0 db2 17 db3 0 dbc 17 dbd 0 dbe 17 dc0 0 dc7 17 dca a dcb 17 dcf 0
    dd2 a dd5 17 dd6 a dd7 17 dd8 0 de0 17 de6 0 df0 17 df2 0 df5 17 e01 0 e31 a e32 0 e34 a e3b
    17 e3f 7 e40 0 e47 a e4f 0 e5c 17 e81 0 e83 17 e84 0 e85 17 e86 0 e8b 17 e8c 0 ea4 17 ea5 0
    ea6 17 ea7 0 eb1 a eb2 0 eb4 a ebd 0 ebe 17 ec0 0 ec5 17 ec6 0 ec7 17 ec8 a ece 17 ed0 0 eda
    17 edc 0 ee0 17 f00 0 f18 a f1a 0 f35 a f36 0 f37 a f38 0 f39 a f3a 8 f3e 0 f48 17 f49 0 f6d
    17 f71 a f7f 0 f80 a f85 0 f86 a f88 0 f8d a f98 17 f99 a fbd 17 fbe 0 fc6 a fc7 0 fcd 17
    fce 0 fdb 17 1000 0 102d a 1031 0 1032 a 1038 0 1039 a 103b 0 103d a 103f 0 1058 a 105a 0
    105e a 1061 0 1071 a 1075 0 1082 a 1083 0 1085 a 1087 0 108d a 108e 0 109d a 109e 0 10c6 17
    10c7 0 10c8 17 10cd 0 10ce 17 10d0 0 1249 17 124a 0 124e 17 1250 0 1257 17 1258 0 1259 17
    125a 0 125e 17 1260 0 1289 17 128a 0 128e 17 1290 0 12b1 17 12b2 0 12b6 17 12b8 0 12bf 17
    12c0 0 12c1 17 12c2 0 12c6 17 12c8 0 12d7 17 12d8 0 1311 17 1312 0 1316 17 1318 0 135b 17
    135d a 1360 0 137d 17 1380 0 1390 8 139a 17 13a0 0 13f6 17 13f8 0 13fe 17 1400 8 1401 0 1680
    d 1681 0 169b 8 169d 17 16a0 0 16f9 17 1700 0 1712 a 1715 0 1716 17 171f 0 1732 a 1734 0
    1737 17 1740 0 1752 a 1754 17 1760 0 176d 17 176e 0 1771 17 1772 a 1774 17 1780 0 17b4 a
    17b6 0 17b7 a 17be 0 17c6 a 17c7 0 17c9 a 17d4 0 17db 7 17dc 0 17dd a 17de 17 17e0 0 17ea 17
    17f0 8 17fa 17 1800 8 180b a 180e 9 180f a 1810 0 181a 17 1820 0 1879 17 1880 0 1885 a 1887
    0 18a9 a 18aa 0 18ab 17 18b0 0 18f6 17 1900 0 191f 17 1920 a 1923 0 1927 a 1929 0 192c 17
    1930 0 1932 a 1933 0 1939 a 193c 17 1940 8 1941 17 1944 8 1946 0 196e 17 1970 0 1975 17 1980
    0 19ac 17 19b0 0 19ca 17 19d0 0 19db 17 19de 8 1a00 0 1a17 a 1a19 0 1a1b a 1a1c 17 1a1e 0
    1a56 a 1a57 0 1a58 a 1a5f 17 1a60 a 1a61 0 1a62 a 1a63 0 1a65 a 1a6d 0 1a73 a 1a7d 17 1a7f a
    1a80 0 1a8a 17 1a90 0 1a9a 17 1aa0 0 1aae 17 1ab0 a 1acf 17 1b00 a 1b04 0 1b34 a 1b35 0 1b36
    a 1b3b 0 1b3c a 1b3d 0 1b42 a 1b43 0 1b4d 17 1b50 0 1b6b a 1b74 0 1b7f 17 1b80 a 1b82 0 1ba2
    a 1ba6 0 1ba8 a 1baa 0 1bab a 1bae 0 1be6 a 1be7 0 1be8 a 1bea 0 1bed a 1bee 0 1bef a 1bf2 0
    1bf4 17 1bfc 0 1c2c a 1c34 0 1c36 a 1c38 17 1c3b 0 1c4a 17 1c4d 0 1c89 17 1c90 0 1cbb 17
    1cbd 0 1cc8 17 1cd0 a 1cd3 0 1cd4 a 1ce1 0 1ce2 a 1ce9 0 1ced a 1cee 0 1cf4 a 1cf5 0 1cf8 a
    1cfa 0 1cfb 17 1d00 0 1dc0 a 1e00 0 1f16 17 1f18 0 1f1e 17 1f20 0 1f46 17 1f48 0 1f4e 17
    1f50 0 1f58 17 1f59 0 1f5a 17 1f5b 0 1f5c 17 1f5d 0 1f5e 17 1f5f 0 1f7e 17 1f80 0 1fb5 17
    1fb6 0 1fbd 8 1fbe 0 1fbf 8 1fc2 0 1fc5 17 1fc6 0 1fcd 8 1fd0 0 1fd4 17 1fd6 0 1fdc 17 1fdd
    8 1fe0 0 1fed 8 1ff0 17 1ff2 0 1ff5 17 1ff6 0 1ffd 8 1fff 17 2000 d 200b 9 200e 0 200f 1
    2010 8 2028 d 2029 b 202a e 202b f 202c 12 202d 10 202e 11 202f 6 2030 7 2035 8 2044 6 2045
    8 205f d 2060 9 2065 17 2066 13 2067 14 2068 15 2069 16 206a 9 2070 4 2071 0 2072 17 2074 4
    207a 5 207c 8 207f 0 2080 4 208a 5 208c 8 208f 17 2090 0 209d 17 20a0 7 20c1 17 20d0 a 20f1
    17 2100 8 2102 0 2103 8 2107 0 2108 8 210a 0 2114 8 2115 0 2116 8 2119 0 211e 8 2124 0 2125
    8 2126 0 2127 8 2128 0 2129 8 212a 0 212e 7 212f 0 213a 8 213c 0 2140 8 2145 0 214a 8 214e 0
    2150 8 2160 0 2189 8 218c 17 2190 8 2212 5 2213 7 2214 8 2336 0 237b 8 2395 0 2396 8 2427 17
    2440 8 244b 17 2460 8 2488 4 249c 0 24ea 8 26ac 0 26ad 8 2800 0 2900 8 2b74 17 2b76 8 2b96
    17 2b97 8 2c00 0 2ce5 8 2ceb 0 2cef a 2cf2 0 2cf4 17 2cf9 8 2d00 0 2d26 17 2d27 0 2d28 17
    2d2d 0 2d2e 17 2d30 0 2d68 17 2d6f 0 2d71 17 2d7f a 2d80 0 2d97 17 2da0 0 2da7 17 2da8 0
    2daf 17 2db0 0 2db7 17 2db8 0 2dbf 17 2dc0 0 2dc7 17 2dc8 0 2dcf 17 2dd0 0 2dd7 17 2dd8 0
    2ddf 17 2de0 a 2e00 8 2e5e 17 2e80 8 2e9a 17 2e9b 8 2ef4 17 2f00 8 2fd6 17 2ff0 8 2ffc 17
    3000 d 3001 8 3005 0 3008 8 3021 0 302a a 302e 0 3030 8 3031 0 3036 8 3038 0 303d 8 3040 17
    3041 0 3097 17 3099 a 309b 8 309d 0 30a0 8 30a1 0 30fb 8 30fc 0 3100 17 3105 0 3130 17 3131
    0 318f 17 3190 0 31c0 8 31e4 17 31f0 0 321d 8 321f 17 3220 0 3250 8 3260 0 327c 8 327f 0
    32b1 8 32c0 0 32cc 8 32d0 0 3377 8 337b 0 33de 8 33e0 0 33ff 8 3400 0 4dc0 8 4e00 0 a48d 17
    a490 8 a4c7 17 a4d0 0 a60d 8 a610 0 a62c 17 a640 0 a66f a a673 8 a674 a a67e 8 a680 0 a69e a
    a6a0 0 a6f0 a a6f2 0 a6f8 17 a700 8 a722 0 a788 8 a789 0 a7cb 17 a7d0 0 a7d2 17 a7d3 0 a7d4
    17 a7d5 0 a7da 17 a7f2 0 a802 a a803 0 a806 a a807 0 a80b a a80c 0 a825 a a827 0 a828 8 a82c
    a a82d 17 a830 0 a838 7 a83a 17 a840 0 a874 8 a878 17 a880 0 a8c4 a a8c6 17 a8ce 0 a8da 17
    a8e0 a a8f2 0 a8ff a a900 0 a926 a a92e 0 a947 a a952 0 a954 17 a95f 0 a97d 17 a980 a a983 0
    a9b3 a a9b4 0 a9b6 a a9ba 0 a9bc a a9be 0 a9ce 17 a9cf 0 a9da 17 a9de 0 a9e5 a a9e6 0 a9ff
    17 aa00 0 aa29 a aa2f 0 aa31 a aa33 0 aa35 a aa37 17 aa40 0 aa43 a aa44 0 aa4c a aa4d 0 aa4e
    17 aa50 0 aa5a 17 aa5c 0 aa7c a aa7d 0 aab0 a aab1 0 aab2 a aab5 0 aab7 a aab9 0 aabe a aac0
    0 aac1 a aac2 0 aac3 17 aadb 0 aaec a aaee 0 aaf6 a aaf7 17 ab01 0 ab07 17 ab09 0 ab0f 17
    ab11 0 ab17 17 ab20 0 ab27 17 ab28 0 ab2f 17 ab30 0 ab6a 8 ab6c 17 ab70 0 abe5 a abe6 0 abe8
    a abe9 0 abed a abee 17 abf0 0 abfa 17 ac00 0 d7a4 17 d7b0 0 d7c7 17 d7cb 0 d7fc 17 d800 0
    fa6e 17 fa70 0 fada 17 fb00 0 fb07 17 fb13 0 fb18 17 fb1d 1 fb1e a fb1f 1 fb29 5 fb2a 1 fb37
    17 fb38 1 fb3d 17 fb3e 1 fb3f 17 fb40 1 fb42 17 fb43 1 fb45 17 fb46 1 fb50 2 fbc3 17 fbd3 2
    fd3e 8 fd50 2 fd90 17 fd92 2 fdc8 17 fdcf 8 fdd0 17 fdf0 2 fdfd 8 fe00 a fe10 8 fe1a 17 fe20
    a fe30 8 fe50 6 fe51 8 fe52 6 fe53 17 fe54 8 fe55 6 fe56 8 fe5f 7 fe60 8 fe62 5 fe64 8 fe67
    17 fe68 8 fe69 7 fe6b 8 fe6c 17 fe70 2 fe75 17 fe76 2 fefd 17 feff 9 ff00 17 ff01 8 ff03 7
    ff06 8 ff0b 5 ff0c 6 ff0d 5 ff0e 6 ff10 4 ff1a 6 ff1b 8 ff21 0 ff3b 8 ff41 0 ff5b 8 ff66 0
    ffbf 17 ffc2 0 ffc8 17 ffca 0 ffd0 17 ffd2 0 ffd8 17 ffda 0 ffdd 17 ffe0 7 ffe2 8 ffe5 7
    ffe7 17 ffe8 8 ffef 17 fff9 8 fffe 17 10000 0 1000c 17 1000d 0 10027 17 10028 0 1003b 17
    1003c 0 1003e 17 1003f 0 1004e 17 10050 0 1005e 17 10080 0 100fb 17 10100 0 10101 8 10102 0
    10103 17 10107 0 10134 17 10137 0 10140 8 1018d 0 1018f 17 10190 8 1019d 17 101a0 8 101a1 17
    101d0 0 101fd a 101fe 17 10280 0 1029d 17 102a0 0 102d1 17 102e0 a 102e1 4 102fc 17 10300 0
    10324 17 1032d 0 1034b 17 10350 0 10376 a 1037b 17 10380 0 1039e 17 1039f 0 103c4 17 103c8 0
    103d6 17 10400 0 1049e 17 104a0 0 104aa 17 104b0 0 104d4 17 104d8 0 104fc 17 10500 0 10528
    17 10530 0 10564 17 1056f 0 1057b 17 1057c 0 1058b 17 1058c 0 10593 17 10594 0 10596 17
    10597 0 105a2 17 105a3 0 105b2 17 105b3 0 105ba 17 105bb 0 105bd 17 10600 0 10737 17 10740 0
    10756 17 10760 0 10768 17 10780 0 10786 17 10787 0 107b1 17 107b2 0 107bb 17 10800 1 10806
    17 10808 1 10809 17 1080a 1 10836 17 10837 1 10839 17 1083c 1 1083d 17 1083f 1 10856 17
    10857 1 1089f 17 108a7 1 108b0 17 108e0 1 108f3 17 108f4 1 108f6 17 108fb 1 1091c 17 1091f 8
    10920 1 1093a 17 1093f 1 10940 17 10980 1 109b8 17 109bc 1 109d0 17 109d2 1 10a01 a 10a04 17
    10a05 a 10a07 17 10a0c a 10a10 1 10a14 17 10a15 1 10a18 17 10a19 1 10a36 17 10a38 a 10a3b 17
    10a3f a 10a40 1 10a49 17 10a50 1 10a59 17 10a60 1 10aa0 17 10ac0 1 10ae5 a 10ae7 17 10aeb 1
    10af7 17 10b00 1 10b36 17 10b39 8 10b40 1 10b56 17 10b58 1 10b73 17 10b78 1 10b92 17 10b99 1
    10b9d 17 10ba9 1 10bb0 17 10c00 1 10c49 17 10c80 1 10cb3 17 10cc0 1 10cf3 17 10cfa 1 10d00 2
    10d24 a 10d28 17 10d30 3 10d3a 17 10e60 3 10e7f 17 10e80 1 10eaa 17 10eab a 10ead 1 10eae 17
    10eb0 1 10eb2 17 10f00 1 10f28 17 10f30 2 10f46 a 10f51 2 10f5a 17 10f70 1 10f82 a 10f86 1
    10f8a 17 10fb0 1 10fcc 17 10fe0 1 10ff7 17 11000 0 11001 a 11002 0 11038 a 11047 0 1104e 17
    11052 8 11066 0 11070 a 11071 0 11073 a 11075 0 11076 17 1107f a 11082 0 110b3 a 110b7 0
    110b9 a 110bb 0 110c2 a 110c3 17 110cd 0 110ce 17 110d0 0 110e9 17 110f0 0 110fa 17 11100 a
    11103 0 11127 a 1112c 0 1112d a 11135 17 11136 0 11148 17 11150 0 11173 a 11174 0 11177 17
    11180 a 11182 0 111b6 a 111bf 0 111c9 a 111cd 0 111cf a 111d0 0 111e0 17 111e1 0 111f5 17
    11200 0 11212 17 11213 0 1122f a 11232 0 11234 a 11235 0 11236 a 11238 0 1123e a 1123f 17
    11280 0 11287 17 11288 0 11289 17 1128a 0 1128e 17 1128f 0 1129e 17 1129f 0 112aa 17 112b0 0
    112df a 112e0 0 112e3 a 112eb 17 112f0 0 112fa 17 11300 a 11302 0 11304 17 11305 0 1130d 17
    1130f 0 11311 17 11313 0 11329 17 1132a 0 11331 17 11332 0 11334 17 11335 0 1133a 17 1133b a
    1133d 0 11340 a 11341 0 11345 17 11347 0 11349 17 1134b 0 1134e 17 11350 0 11351 17 11357 0
    11358 17 1135d 0 11364 17 11366 a 1136d 17 11370 a 11375 17 11400 0 11438 a 11440 0 11442 a
    11445 0 11446 a 11447 0 1145c 17 1145d 0 1145e a 1145f 0 11462 17 11480 0 114b3 a 114b9 0
    114ba a 114bb 0 114bf a 114c1 0 114c2 a 114c4 0 114c8 17 114d0 0 114da 17 11580 0 115b2 a
    115b6 17 115b8 0 115bc a 115be 0 115bf a 115c1 0 115dc a 115de 17 11600 0 11633 a 1163b 0
    1163d a 1163e 0 1163f a 11641 0 11645 17 11650 0 1165a 17 11660 8 1166d 17 11680 0 116ab a
    116ac 0 116ad a 116ae 0 116b0 a 116b6 0 116b7 a 116b8 0 116ba 17 116c0 0 116ca 17 11700 0
    1171b 17 1171d a 11720 0 11722 a 11726 0 11727 a 1172c 17 11730 0 11747 17 11800 0 1182f a
    11838 0 11839 a 1183b 0 1183c 17 118a0 0 118f3 17 118ff 0 11907 17 11909 0 1190a 17 1190c 0
    11914 17 11915 0 11917 17 11918 0 11936 17 11937 0 11939 17 1193b a 1193d 0 1193e a 1193f 0
    11943 a 11944 0 11947 17 11950 0 1195a 17 119a0 0 119a8 17 119aa 0 119d4 a 119d8 17 119da a
    119dc 0 119e0 a 119e1 0 119e5 17 11a00 0 11a01 a 11a07 0 11a09 a 11a0b 0 11a33 a 11a39 0
    11a3b a 11a3f 0 11a47 a 11a48 17 11a50 0 11a51 a 11a57 0 11a59 a 11a5c 0 11a8a a 11a97 0
    11a98 a 11a9a 0 11aa3 17 11ab0 0 11af9 17 11c00 0 11c09 17 11c0a 0 11c30 a 11c37 17 11c38 a
    11c3e 0 11c46 17 11c50 0 11c6d 17 11c70 0 11c90 17 11c92 a 11ca8 17 11ca9 0 11caa a 11cb1 0
    11cb2 a 11cb4 0 11cb5 a 11cb7 17 11d00 0 11d07 17 11d08 0 11d0a 17 11d0b 0 11d31 a 11d37 17
    11d3a a 11d3b 17 11d3c a 11d3e 17 11d3f a 11d46 0 11d47 a 11d48 17 11d50 0 11d5a 17 11d60 0
    11d66 17 11d67 0 11d69 17 11d6a 0 11d8f 17 11d90 a 11d92 17 11d93 0 11d95 a 11d96 0 11d97 a
    11d98 0 11d99 17 11da0 0 11daa 17 11ee0 0 11ef3 a 11ef5 0 11ef9 17 11fb0 0 11fb1 17 11fc0 0
    11fd5 8 11fdd 7 11fe1 8 11ff2 17 11fff 0 1239a 17 12400 0 1246f 17 12470 0 12475 17 12480 0
    12544 17 12f90 0 12ff3 17 13000 0 1342f 17 13430 0 13439 17 14400 0 14647 17 16800 0 16a39
    17 16a40 0 16a5f 17 16a60 0 16a6a 17 16a6e 0 16abf 17 16ac0 0 16aca 17 16ad0 0 16aee 17
    16af0 a 16af5 0 16af6 17 16b00 0 16b30 a 16b37 0 16b46 17 16b50 0 16b5a 17 16b5b 0 16b62 17
    16b63 0 16b78 17 16b7d 0 16b90 17 16e40 0 16e9b 17 16f00 0 16f4b 17 16f4f a 16f50 0 16f88 17
    16f8f a 16f93 0 16fa0 17 16fe0 0 16fe2 8 16fe3 0 16fe4 a 16fe5 17 16ff0 0 16ff2 17 17000 0
    187f8 17 18800 0 18cd6 17 18d00 0 18d09 17 1aff0 0 1aff4 17 1aff5 0 1affc 17 1affd 0 1afff
    17 1b000 0 1b123 17 1b150 0 1b153 17 1b164 0 1b168 17 1b170 0 1b2fc 17 1bc00 0 1bc6b 17
    1bc70 0 1bc7d 17 1bc80 0 1bc89 17 1bc90 0 1bc9a 17 1bc9c 0 1bc9d a 1bc9f 0 1bca0 9 1bca4 17
    1cf00 a 1cf2e 17 1cf30 a 1cf47 17 1cf50 0 1cfc4 17 1d000 0 1d0f6 17 1d100 0 1d127 17 1d129 0
    1d167 a 1d16a 0 1d173 9 1d17b a 1d183 0 1d185 a 1d18c 0 1d1aa a 1d1ae 0 1d1e9 8 1d1eb 17
    1d200 8 1d242 a 1d245 8 1d246 17 1d2e0 0 1d2f4 17 1d300 8 1d357 17 1d360 0 1d379 17 1d400 0
    1d455 17 1d456 0 1d49d 17 1d49e 0 1d4a0 17 1d4a2 0 1d4a3 17 1d4a5 0 1d4a7 17 1d4a9 0 1d4ad
    17 1d4ae 0 1d4ba 17 1d4bb 0 1d4bc 17 1d4bd 0 1d4c4 17 1d4c5 0 1d506 17 1d507 0 1d50b 17
    1d50d 0 1d515 17 1d516 0 1d51d 17 1d51e 0 1d53a 17 1d53b 0 1d53f 17 1d540 0 1d545 17 1d546 0
    1d547 17 1d54a 0 1d551 17 1d552 0 1d6a6 17 1d6a8 0 1d6db 8 1d6dc 0 1d715 8 1d716 0 1d74f 8
    1d750 0 1d789 8 1d78a 0 1d7c3 8 1d7c4 0 1d7cc 17 1d7ce 4 1d800 0 1da00 a 1da37 0 1da3b a
    1da6d 0 1da75 a 1da76 0 1da84 a 1da85 0 1da8c 17 1da9b a 1daa0 17 1daa1 a 1dab0 17 1df00 0
    1df1f 17 1e000 a 1e007 17 1e008 a 1e019 17 1e01b a 1e022 17 1e023 a 1e025 17 1e026 a 1e02b
    17 1e100 0 1e12d 17 1e130 a 1e137 0 1e13e 17 1e140 0 1e14a 17 1e14e 0 1e150 17 1e290 0 1e2ae
    a 1e2af 17 1e2c0 0 1e2ec a 1e2f0 0 1e2fa 17 1e2ff 7 1e300 17 1e7e0 0 1e7e7 17 1e7e8 0 1e7ec
    17 1e7ed 0 1e7ef 17 1e7f0 0 1e7ff 17 1e800 1 1e8c5 17 1e8c7 1 1e8d0 a 1e8d7 17 1e900 1 1e944
    a 1e94b 1 1e94c 17 1e950 1 1e95a 17 1e95e 1 1e960 17 1ec71 2 1ecb5 17 1ed01 2 1ed3e 17 1ee00
    2 1ee04 17 1ee05 2 1ee20 17 1ee21 2 1ee23 17 1ee24 2 1ee25 17 1ee27 2 1ee28 17 1ee29 2 1ee33
    17 1ee34 2 1ee38 17 1ee39 2 1ee3a 17 1ee3b 2 1ee3c 17 1ee42 2 1ee43 17 1ee47 2 1ee48 17
    1ee49 2 1ee4a 17 1ee4b 2 1ee4c 17 1ee4d 2 1ee50 17 1ee51 2 1ee53 17 1ee54 2 1ee55 17 1ee57 2
    1ee58 17 1ee59 2 1ee5a 17 1ee5b 2 1ee5c 17 1ee5d 2 1ee5e 17 1ee5f 2 1ee60 17 1ee61 2 1ee63
    17 1ee64 2 1ee65 17 1ee67 2 1ee6b 17 1ee6c 2 1ee73 17 1ee74 2 1ee78 17 1ee79 2 1ee7d 17
    1ee7e 2 1ee7f 17 1ee80 2 1ee8a 17 1ee8b 2 1ee9c 17 1eea1 2 1eea4 17 1eea5 2 1eeaa 17 1eeab 2
    1eebc 17 1eef0 8 1eef2 17 1f000 8 1f02c 17 1f030 8 1f094 17 1f0a0 8 1f0af 17 1f0b1 8 1f0c0
    17 1f0c1 8 1f0d0 17 1f0d1 8 1f0f6 17 1f100 4 1f10b 8 1f110 0 1f12f 8 1f130 0 1f16a 8 1f170 0
    1f1ad 8 1f1ae 17 1f1e6 0 1f203 17 1f210 0 1f23c 17 1f240 0 1f249 17 1f250 0 1f252 17 1f260 8
    1f266 17 1f300 8 1f6d8 17 1f6dd 8 1f6ed 17 1f6f0 8 1f6fd 17 1f700 8 1f774 17 1f780 8 1f7d9
    17 1f7e0 8 1f7ec 17 1f7f0 8 1f7f1 17 1f800 8 1f80c 17 1f810 8 1f848 17 1f850 8 1f85a 17
    1f860 8 1f888 17 1f890 8 1f8ae 17 1f8b0 8 1f8b2 17 1f900 8 1fa54 17 1fa60 8 1fa6e 17 1fa70 8
    1fa75 17 1fa78 8 1fa7d 17 1fa80 8 1fa87 17 1fa90 8 1faad 17 1fab0 8 1fabb 17 1fac0 8 1fac6
    17 1fad0 8 1fada 17 1fae0 8 1fae8 17 1faf0 8 1faf7 17 1fb00 8 1fb93 17 1fb94 8 1fbcb 17
    1fbf0 4 1fbfa 17 20000 0 2a6e0 17 2a700 0 2b739 17 2b740 0 2b81e 17 2b820 0 2cea2 17 2ceb0 0
    2ebe1 17 2f800 0 2fa1e 17 30000 0 3134b 17 e0001 9 e0002 17 e0020 9 e0080 17 e0100 a e01f0
    17 f0000 0 ffffe 17 100000 0 10fffe 17"

end EntityCatalog.Address
