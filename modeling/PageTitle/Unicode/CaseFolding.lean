import PageTitle.Unicode.CharSet

/-!
# Case folding

Characters that differ only in case, by the simple case foldings of the Unicode Character
Database, version 16.0. `CharSet.foldCase` closes a set under them.
-/

namespace PageTitle
namespace CaseFolding

/-- Each row holds the characters that fold to one. -/
def table : String :=
  "41:61 1:62 1:63 1:64 1:65 1:66 1:67 1:68 1:69 1:6a 1:6b:212a 1:6c 1:6d 1:6e 1:6f 1:70 1:71
   1:72 1:73:17f 1:74 1:75 1:76 1:77 1:78 1:79 1:7a 5b:39c:3bc b:e0 1:e1 1:e2 1:e3 1:e4
   1:e5:212b 1:e6 1:e7 1:e8 1:e9 1:ea 1:eb 1:ec 1:ed 1:ee 1:ef 1:f0 1:f1 1:f2 1:f3 1:f4 1:f5
   1:f6 2:f8 1:f9 1:fa 1:fb 1:fc 1:fd 1:fe 1:1e9e 20:178 1:101 2:103 2:105 2:107 2:109 2:10b
   2:10d 2:10f 2:111 2:113 2:115 2:117 2:119 2:11b 2:11d 2:11f 2:121 2:123 2:125 2:127 2:129
   2:12b 2:12d 2:12f 4:133 2:135 2:137 3:13a 2:13c 2:13e 2:140 2:142 2:144 2:146 2:148 3:14b
   2:14d 2:14f 2:151 2:153 2:155 2:157 2:159 2:15b 2:15d 2:15f 2:161 2:163 2:165 2:167 2:169
   2:16b 2:16d 2:16f 2:171 2:173 2:175 2:177 3:17a 2:17c 2:17e 3:243 1:253 1:183 2:185 2:254
   1:188 2:256 1:257 1:18c 3:1dd 1:259 1:25b 1:192 2:260 1:263 1:1f6 1:269 1:268 1:199 2:23d
   1:a7dc 1:26f 1:272 1:220 1:275 1:1a1 2:1a3 2:1a5 2:280 1:1a8 2:283 3:1ad 2:288 1:1b0 2:28a
   1:28b 1:1b4 2:1b6 2:292 1:1b9 4:1bd 3:1f7 5:1c5:1c6 3:1c8:1c9 3:1cb:1cc 3:1ce 2:1d0 2:1d2
   2:1d4 2:1d6 2:1d8 2:1da 2:1dc 3:1df 2:1e1 2:1e3 2:1e5 2:1e7 2:1e9 2:1eb 2:1ed 2:1ef
   3:1f2:1f3 3:1f5 4:1f9 2:1fb 2:1fd 2:1ff 2:201 2:203 2:205 2:207 2:209 2:20b 2:20d 2:20f
   2:211 2:213 2:215 2:217 2:219 2:21b 2:21d 2:21f 4:223 2:225 2:227 2:229 2:22b 2:22d 2:22f
   2:231 2:233 8:2c65 1:23c 3:2c66 1:2c7e 1:2c7f 1:242 3:289 1:28c 1:247 2:249 2:24b 2:24d
   2:24f 2:2c6f 1:2c6d 1:2c70 a:a7ab 5:a7ac 3:a7cb 1:a78d 1:a7aa 4:a7ae 1:2c62 1:a7ad 5:2c6e
   c:2c64 5:a7c5 5:a7b1 16:a7b2 1:a7b0 a7:399:3b9:1fbe 2b:371 2:373 4:377 5:3fd 1:3fe 1:3ff
   2:3f3 7:3ac 2:3ad 1:3ae 1:3af 2:3cc 2:3cd 1:3ce 1:1fd3 1:3b1 1:3b2:3d0 1:3b3 1:3b4 1:3b5:3f5
   1:3b6 1:3b7 1:3b8:3d1:3f4 2:3ba:3f0 1:3bb 2:3bd 1:3be 1:3bf 1:3c0:3d6 1:3c1:3f1 2:3c2:3c3
   1:3c4 1:3c5 1:3c6:3d5 1:3c7 1:3c8 1:3c9:2126 1:3ca 1:3cb 5:1fe3 1f:3d7 9:3d9 2:3db 2:3dd
   2:3df 2:3e1 2:3e3 2:3e5 2:3e7 2:3e9 2:3eb 2:3ed 2:3ef 4:3f9 5:3f8 3:3fb 6:450 1:451 1:452
   1:453 1:454 1:455 1:456 1:457 1:458 1:459 1:45a 1:45b 1:45c 1:45d 1:45e 1:45f 1:430 1:431
   1:432:1c80 1:433 1:434:1c81 1:435 1:436 1:437 1:438 1:439 1:43a 1:43b 1:43c 1:43d 1:43e:1c82
   1:43f 1:440 1:441:1c83 1:442:1c84:1c85 1:443 1:444 1:445 1:446 1:447 1:448 1:449 1:44a:1c86
   1:44b 1:44c 1:44d 1:44e 1:44f 31:461 2:463:1c87 2:465 2:467 2:469 2:46b 2:46d 2:46f 2:471
   2:473 2:475 2:477 2:479 2:47b 2:47d 2:47f 2:481 a:48b 2:48d 2:48f 2:491 2:493 2:495 2:497
   2:499 2:49b 2:49d 2:49f 2:4a1 2:4a3 2:4a5 2:4a7 2:4a9 2:4ab 2:4ad 2:4af 2:4b1 2:4b3 2:4b5
   2:4b7 2:4b9 2:4bb 2:4bd 2:4bf 2:4cf 1:4c2 2:4c4 2:4c6 2:4c8 2:4ca 2:4cc 2:4ce 3:4d1 2:4d3
   2:4d5 2:4d7 2:4d9 2:4db 2:4dd 2:4df 2:4e1 2:4e3 2:4e5 2:4e7 2:4e9 2:4eb 2:4ed 2:4ef 2:4f1
   2:4f3 2:4f5 2:4f7 2:4f9 2:4fb 2:4fd 2:4ff 2:501 2:503 2:505 2:507 2:509 2:50b 2:50d 2:50f
   2:511 2:513 2:515 2:517 2:519 2:51b 2:51d 2:51f 2:521 2:523 2:525 2:527 2:529 2:52b 2:52d
   2:52f 3:561 1:562 1:563 1:564 1:565 1:566 1:567 1:568 1:569 1:56a 1:56b 1:56c 1:56d 1:56e
   1:56f 1:570 1:571 1:572 1:573 1:574 1:575 1:576 1:577 1:578 1:579 1:57a 1:57b 1:57c 1:57d
   1:57e 1:57f 1:580 1:581 1:582 1:583 1:584 1:585 1:586 b4a:2d00 1:2d01 1:2d02 1:2d03 1:2d04
   1:2d05 1:2d06 1:2d07 1:2d08 1:2d09 1:2d0a 1:2d0b 1:2d0c 1:2d0d 1:2d0e 1:2d0f 1:2d10 1:2d11
   1:2d12 1:2d13 1:2d14 1:2d15 1:2d16 1:2d17 1:2d18 1:2d19 1:2d1a 1:2d1b 1:2d1c 1:2d1d 1:2d1e
   1:2d1f 1:2d20 1:2d21 1:2d22 1:2d23 1:2d24 1:2d25 2:2d27 6:2d2d 3:1c90 1:1c91 1:1c92 1:1c93
   1:1c94 1:1c95 1:1c96 1:1c97 1:1c98 1:1c99 1:1c9a 1:1c9b 1:1c9c 1:1c9d 1:1c9e 1:1c9f 1:1ca0
   1:1ca1 1:1ca2 1:1ca3 1:1ca4 1:1ca5 1:1ca6 1:1ca7 1:1ca8 1:1ca9 1:1caa 1:1cab 1:1cac 1:1cad
   1:1cae 1:1caf 1:1cb0 1:1cb1 1:1cb2 1:1cb3 1:1cb4 1:1cb5 1:1cb6 1:1cb7 1:1cb8 1:1cb9 1:1cba
   3:1cbd 1:1cbe 1:1cbf 2a1:ab70 1:ab71 1:ab72 1:ab73 1:ab74 1:ab75 1:ab76 1:ab77 1:ab78 1:ab79
   1:ab7a 1:ab7b 1:ab7c 1:ab7d 1:ab7e 1:ab7f 1:ab80 1:ab81 1:ab82 1:ab83 1:ab84 1:ab85 1:ab86
   1:ab87 1:ab88 1:ab89 1:ab8a 1:ab8b 1:ab8c 1:ab8d 1:ab8e 1:ab8f 1:ab90 1:ab91 1:ab92 1:ab93
   1:ab94 1:ab95 1:ab96 1:ab97 1:ab98 1:ab99 1:ab9a 1:ab9b 1:ab9c 1:ab9d 1:ab9e 1:ab9f 1:aba0
   1:aba1 1:aba2 1:aba3 1:aba4 1:aba5 1:aba6 1:aba7 1:aba8 1:aba9 1:abaa 1:abab 1:abac 1:abad
   1:abae 1:abaf 1:abb0 1:abb1 1:abb2 1:abb3 1:abb4 1:abb5 1:abb6 1:abb7 1:abb8 1:abb9 1:abba
   1:abbb 1:abbc 1:abbd 1:abbe 1:abbf 1:13f8 1:13f9 1:13fa 1:13fb 1:13fc 1:13fd 893:a64a:a64b
   1:1c8a f0:a77d 4:2c63 11:a7c6 72:1e01 2:1e03 2:1e05 2:1e07 2:1e09 2:1e0b 2:1e0d 2:1e0f
   2:1e11 2:1e13 2:1e15 2:1e17 2:1e19 2:1e1b 2:1e1d 2:1e1f 2:1e21 2:1e23 2:1e25 2:1e27 2:1e29
   2:1e2b 2:1e2d 2:1e2f 2:1e31 2:1e33 2:1e35 2:1e37 2:1e39 2:1e3b 2:1e3d 2:1e3f 2:1e41 2:1e43
   2:1e45 2:1e47 2:1e49 2:1e4b 2:1e4d 2:1e4f 2:1e51 2:1e53 2:1e55 2:1e57 2:1e59 2:1e5b 2:1e5d
   2:1e5f 2:1e61:1e9b 2:1e63 2:1e65 2:1e67 2:1e69 2:1e6b 2:1e6d 2:1e6f 2:1e71 2:1e73 2:1e75
   2:1e77 2:1e79 2:1e7b 2:1e7d 2:1e7f 2:1e81 2:1e83 2:1e85 2:1e87 2:1e89 2:1e8b 2:1e8d 2:1e8f
   2:1e91 2:1e93 2:1e95 c:1ea1 2:1ea3 2:1ea5 2:1ea7 2:1ea9 2:1eab 2:1ead 2:1eaf 2:1eb1 2:1eb3
   2:1eb5 2:1eb7 2:1eb9 2:1ebb 2:1ebd 2:1ebf 2:1ec1 2:1ec3 2:1ec5 2:1ec7 2:1ec9 2:1ecb 2:1ecd
   2:1ecf 2:1ed1 2:1ed3 2:1ed5 2:1ed7 2:1ed9 2:1edb 2:1edd 2:1edf 2:1ee1 2:1ee3 2:1ee5 2:1ee7
   2:1ee9 2:1eeb 2:1eed 2:1eef 2:1ef1 2:1ef3 2:1ef5 2:1ef7 2:1ef9 2:1efb 2:1efd 2:1eff 2:1f08
   1:1f09 1:1f0a 1:1f0b 1:1f0c 1:1f0d 1:1f0e 1:1f0f 9:1f18 1:1f19 1:1f1a 1:1f1b 1:1f1c 1:1f1d
   b:1f28 1:1f29 1:1f2a 1:1f2b 1:1f2c 1:1f2d 1:1f2e 1:1f2f 9:1f38 1:1f39 1:1f3a 1:1f3b 1:1f3c
   1:1f3d 1:1f3e 1:1f3f 9:1f48 1:1f49 1:1f4a 1:1f4b 1:1f4c 1:1f4d c:1f59 2:1f5b 2:1f5d 2:1f5f
   9:1f68 1:1f69 1:1f6a 1:1f6b 1:1f6c 1:1f6d 1:1f6e 1:1f6f 9:1fba 1:1fbb 1:1fc8 1:1fc9 1:1fca
   1:1fcb 1:1fda 1:1fdb 1:1ff8 1:1ff9 1:1fea 1:1feb 1:1ffa 1:1ffb 3:1f88 1:1f89 1:1f8a 1:1f8b
   1:1f8c 1:1f8d 1:1f8e 1:1f8f 9:1f98 1:1f99 1:1f9a 1:1f9b 1:1f9c 1:1f9d 1:1f9e 1:1f9f 9:1fa8
   1:1fa9 1:1faa 1:1fab 1:1fac 1:1fad 1:1fae 1:1faf 9:1fb8 1:1fb9 2:1fbc 10:1fcc d:1fd8 1:1fd9
   f:1fe8 1:1fe9 4:1fec e:1ffc 13f:214e 2e:2170 1:2171 1:2172 1:2173 1:2174 1:2175 1:2176
   1:2177 1:2178 1:2179 1:217a 1:217b 1:217c 1:217d 1:217e 1:217f 14:2184 333:24d0 1:24d1
   1:24d2 1:24d3 1:24d4 1:24d5 1:24d6 1:24d7 1:24d8 1:24d9 1:24da 1:24db 1:24dc 1:24dd 1:24de
   1:24df 1:24e0 1:24e1 1:24e2 1:24e3 1:24e4 1:24e5 1:24e6 1:24e7 1:24e8 1:24e9 731:2c30 1:2c31
   1:2c32 1:2c33 1:2c34 1:2c35 1:2c36 1:2c37 1:2c38 1:2c39 1:2c3a 1:2c3b 1:2c3c 1:2c3d 1:2c3e
   1:2c3f 1:2c40 1:2c41 1:2c42 1:2c43 1:2c44 1:2c45 1:2c46 1:2c47 1:2c48 1:2c49 1:2c4a 1:2c4b
   1:2c4c 1:2c4d 1:2c4e 1:2c4f 1:2c50 1:2c51 1:2c52 1:2c53 1:2c54 1:2c55 1:2c56 1:2c57 1:2c58
   1:2c59 1:2c5a 1:2c5b 1:2c5c 1:2c5d 1:2c5e 1:2c5f 31:2c61 7:2c68 2:2c6a 2:2c6c 7:2c73 3:2c76
   b:2c81 2:2c83 2:2c85 2:2c87 2:2c89 2:2c8b 2:2c8d 2:2c8f 2:2c91 2:2c93 2:2c95 2:2c97 2:2c99
   2:2c9b 2:2c9d 2:2c9f 2:2ca1 2:2ca3 2:2ca5 2:2ca7 2:2ca9 2:2cab 2:2cad 2:2caf 2:2cb1 2:2cb3
   2:2cb5 2:2cb7 2:2cb9 2:2cbb 2:2cbd 2:2cbf 2:2cc1 2:2cc3 2:2cc5 2:2cc7 2:2cc9 2:2ccb 2:2ccd
   2:2ccf 2:2cd1 2:2cd3 2:2cd5 2:2cd7 2:2cd9 2:2cdb 2:2cdd 2:2cdf 2:2ce1 2:2ce3 9:2cec 2:2cee
   5:2cf3 794e:a641 2:a643 2:a645 2:a647 2:a649 4:a64d 2:a64f 2:a651 2:a653 2:a655 2:a657
   2:a659 2:a65b 2:a65d 2:a65f 2:a661 2:a663 2:a665 2:a667 2:a669 2:a66b 2:a66d 14:a681 2:a683
   2:a685 2:a687 2:a689 2:a68b 2:a68d 2:a68f 2:a691 2:a693 2:a695 2:a697 2:a699 2:a69b 88:a723
   2:a725 2:a727 2:a729 2:a72b 2:a72d 2:a72f 4:a733 2:a735 2:a737 2:a739 2:a73b 2:a73d 2:a73f
   2:a741 2:a743 2:a745 2:a747 2:a749 2:a74b 2:a74d 2:a74f 2:a751 2:a753 2:a755 2:a757 2:a759
   2:a75b 2:a75d 2:a75f 2:a761 2:a763 2:a765 2:a767 2:a769 2:a76b 2:a76d 2:a76f b:a77a 2:a77c
   3:a77f 2:a781 2:a783 2:a785 2:a787 5:a78c 5:a791 2:a793 2:a7c4 2:a797 2:a799 2:a79b 2:a79d
   2:a79f 2:a7a1 2:a7a3 2:a7a5 2:a7a7 2:a7a9 b:ab53 1:a7b5 2:a7b7 2:a7b9 2:a7bb 2:a7bd 2:a7bf
   2:a7c1 2:a7c3 5:a7c8 2:a7ca 3:a7cd 4:a7d1 6:a7d7 2:a7d9 2:a7db 1b:a7f6 5310:fb06 41c:ff41
   1:ff42 1:ff43 1:ff44 1:ff45 1:ff46 1:ff47 1:ff48 1:ff49 1:ff4a 1:ff4b 1:ff4c 1:ff4d 1:ff4e
   1:ff4f 1:ff50 1:ff51 1:ff52 1:ff53 1:ff54 1:ff55 1:ff56 1:ff57 1:ff58 1:ff59 1:ff5a
   4c6:10428 1:10429 1:1042a 1:1042b 1:1042c 1:1042d 1:1042e 1:1042f 1:10430 1:10431 1:10432
   1:10433 1:10434 1:10435 1:10436 1:10437 1:10438 1:10439 1:1043a 1:1043b 1:1043c 1:1043d
   1:1043e 1:1043f 1:10440 1:10441 1:10442 1:10443 1:10444 1:10445 1:10446 1:10447 1:10448
   1:10449 1:1044a 1:1044b 1:1044c 1:1044d 1:1044e 1:1044f 89:104d8 1:104d9 1:104da 1:104db
   1:104dc 1:104dd 1:104de 1:104df 1:104e0 1:104e1 1:104e2 1:104e3 1:104e4 1:104e5 1:104e6
   1:104e7 1:104e8 1:104e9 1:104ea 1:104eb 1:104ec 1:104ed 1:104ee 1:104ef 1:104f0 1:104f1
   1:104f2 1:104f3 1:104f4 1:104f5 1:104f6 1:104f7 1:104f8 1:104f9 1:104fa 1:104fb 9d:10597
   1:10598 1:10599 1:1059a 1:1059b 1:1059c 1:1059d 1:1059e 1:1059f 1:105a0 1:105a1 2:105a3
   1:105a4 1:105a5 1:105a6 1:105a7 1:105a8 1:105a9 1:105aa 1:105ab 1:105ac 1:105ad 1:105ae
   1:105af 1:105b0 1:105b1 2:105b3 1:105b4 1:105b5 1:105b6 1:105b7 1:105b8 1:105b9 2:105bb
   1:105bc 6eb:10cc0 1:10cc1 1:10cc2 1:10cc3 1:10cc4 1:10cc5 1:10cc6 1:10cc7 1:10cc8 1:10cc9
   1:10cca 1:10ccb 1:10ccc 1:10ccd 1:10cce 1:10ccf 1:10cd0 1:10cd1 1:10cd2 1:10cd3 1:10cd4
   1:10cd5 1:10cd6 1:10cd7 1:10cd8 1:10cd9 1:10cda 1:10cdb 1:10cdc 1:10cdd 1:10cde 1:10cdf
   1:10ce0 1:10ce1 1:10ce2 1:10ce3 1:10ce4 1:10ce5 1:10ce6 1:10ce7 1:10ce8 1:10ce9 1:10cea
   1:10ceb 1:10cec 1:10ced 1:10cee 1:10cef 1:10cf0 1:10cf1 1:10cf2 9e:10d70 1:10d71 1:10d72
   1:10d73 1:10d74 1:10d75 1:10d76 1:10d77 1:10d78 1:10d79 1:10d7a 1:10d7b 1:10d7c 1:10d7d
   1:10d7e 1:10d7f 1:10d80 1:10d81 1:10d82 1:10d83 1:10d84 1:10d85 b3b:118c0 1:118c1 1:118c2
   1:118c3 1:118c4 1:118c5 1:118c6 1:118c7 1:118c8 1:118c9 1:118ca 1:118cb 1:118cc 1:118cd
   1:118ce 1:118cf 1:118d0 1:118d1 1:118d2 1:118d3 1:118d4 1:118d5 1:118d6 1:118d7 1:118d8
   1:118d9 1:118da 1:118db 1:118dc 1:118dd 1:118de 1:118df 5581:16e60 1:16e61 1:16e62 1:16e63
   1:16e64 1:16e65 1:16e66 1:16e67 1:16e68 1:16e69 1:16e6a 1:16e6b 1:16e6c 1:16e6d 1:16e6e
   1:16e6f 1:16e70 1:16e71 1:16e72 1:16e73 1:16e74 1:16e75 1:16e76 1:16e77 1:16e78 1:16e79
   1:16e7a 1:16e7b 1:16e7c 1:16e7d 1:16e7e 1:16e7f 7aa1:1e922 1:1e923 1:1e924 1:1e925 1:1e926
   1:1e927 1:1e928 1:1e929 1:1e92a 1:1e92b 1:1e92c 1:1e92d 1:1e92e 1:1e92f 1:1e930 1:1e931
   1:1e932 1:1e933 1:1e934 1:1e935 1:1e936 1:1e937 1:1e938 1:1e939 1:1e93a 1:1e93b 1:1e93c
   1:1e93d 1:1e93e 1:1e93f 1:1e940 1:1e941 1:1e942 1:1e943"

/-- The classes of characters that fold to one. -/
def classes : List (List Nat) := Table.rows table

end CaseFolding

namespace CharSet

/-- The set with all characters that differ from one of its own only in case. -/
def foldCase (s : CharSet) : CharSet :=
  let touched := CaseFolding.classes.filter fun l => l.any fun n => hasBelow n s.bounds
  s.union (ofList touched.flatten)

/-- The set with both cases of each ASCII letter in it. -/
def foldCaseAscii (s : CharSet) : CharSet :=
  let lower := (s.inter (range 0x41 0x5A)).bounds.map (· + 0x20)
  let upper := (s.inter (range 0x61 0x7A)).bounds.map (· - 0x20)
  (s.union ⟨lower⟩).union ⟨upper⟩

end CharSet
end PageTitle
