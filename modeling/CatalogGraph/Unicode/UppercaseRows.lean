/-!
# Upper case

The ASCII letters are not listed: their upper case is computed.
-/

namespace CatalogGraph.Unicode

/-- The upper case of every other character that has one of its own. -/
def uppercaseText : String :=
  "b5>39c 2a>53.53 1>c0 1>c1 1>c2 1>c3 1>c4 1>c5 1>c6 1>c7 1>c8 1>c9 1>ca 1>cb 1>cc 1>cd 1>ce
1>cf 1>d0 1>d1 1>d2 1>d3 1>d4 1>d5 1>d6 2>d8 1>d9 1>da 1>db 1>dc 1>dd 1>de 1>178 2>100 2>102
2>104 2>106 2>108 2>10a 2>10c 2>10e 2>110 2>112 2>114 2>116 2>118 2>11a 2>11c 2>11e 2>120
2>122 2>124 2>126 2>128 2>12a 2>12c 2>12e 2>49 2>132 2>134 2>136 3>139 2>13b 2>13d 2>13f 2>141
2>143 2>145 2>147 1>2bc.4e 2>14a 2>14c 2>14e 2>150 2>152 2>154 2>156 2>158 2>15a 2>15c 2>15e
2>160 2>162 2>164 2>166 2>168 2>16a 2>16c 2>16e 2>170 2>172 2>174 2>176 3>179 2>17b 2>17d 1>53
1>243 3>182 2>184 3>187 4>18b 6>191 3>1f6 4>198 1>23d 4>220 3>1a0 2>1a2 2>1a4 3>1a7 5>1ac
3>1af 4>1b3 2>1b5 3>1b8 4>1bc 2>1f7 6>1c4 1>1c4 2>1c7 1>1c7 2>1ca 1>1ca 2>1cd 2>1cf 2>1d1
2>1d3 2>1d5 2>1d7 2>1d9 2>1db 1>18e 2>1de 2>1e0 2>1e2 2>1e4 2>1e6 2>1e8 2>1ea 2>1ec 2>1ee
1>4a.30c 2>1f1 1>1f1 2>1f4 4>1f8 2>1fa 2>1fc 2>1fe 2>200 2>202 2>204 2>206 2>208 2>20a 2>20c
2>20e 2>210 2>212 2>214 2>216 2>218 2>21a 2>21c 2>21e 4>222 2>224 2>226 2>228 2>22a 2>22c
2>22e 2>230 2>232 9>23b 3>2c7e 1>2c7f 2>241 5>246 2>248 2>24a 2>24c 2>24e 1>2c6f 1>2c6d 1>2c70
1>181 1>186 2>189 1>18a 2>18f 2>190 1>a7ab 4>193 1>a7ac 2>194 2>a78d 1>a7aa 2>197 1>196 1>a7ae
1>2c62 1>a7ad 3>19c 2>2c6e 1>19d 3>19f 8>2c64 3>1a6 2>a7c5 1>1a9 4>a7b1 1>1ae 1>244 1>1b1
1>1b2 1>245 6>1b7 b>a7b2 1>a7b0 a7>399 2c>370 2>372 4>376 4>3fd 1>3fe 1>3ff 13>399.308.301
1c>386 1>388 1>389 1>38a 1>3a5.308.301 1>391 1>392 1>393 1>394 1>395 1>396 1>397 1>398 1>399
1>39a 1>39b 1>39c 1>39d 1>39e 1>39f 1>3a0 1>3a1 1>3a3 1>3a3 1>3a4 1>3a5 1>3a6 1>3a7 1>3a8
1>3a9 1>3aa 1>3ab 1>38c 1>38e 1>38f 2>392 1>398 4>3a6 1>3a0 1>3cf 2>3d8 2>3da 2>3dc 2>3de
2>3e0 2>3e2 2>3e4 2>3e6 2>3e8 2>3ea 2>3ec 2>3ee 1>39a 1>3a1 1>3f9 1>37f 2>395 3>3f7 3>3fa
35>410 1>411 1>412 1>413 1>414 1>415 1>416 1>417 1>418 1>419 1>41a 1>41b 1>41c 1>41d 1>41e
1>41f 1>420 1>421 1>422 1>423 1>424 1>425 1>426 1>427 1>428 1>429 1>42a 1>42b 1>42c 1>42d
1>42e 1>42f 1>400 1>401 1>402 1>403 1>404 1>405 1>406 1>407 1>408 1>409 1>40a 1>40b 1>40c
1>40d 1>40e 1>40f 2>460 2>462 2>464 2>466 2>468 2>46a 2>46c 2>46e 2>470 2>472 2>474 2>476
2>478 2>47a 2>47c 2>47e 2>480 a>48a 2>48c 2>48e 2>490 2>492 2>494 2>496 2>498 2>49a 2>49c
2>49e 2>4a0 2>4a2 2>4a4 2>4a6 2>4a8 2>4aa 2>4ac 2>4ae 2>4b0 2>4b2 2>4b4 2>4b6 2>4b8 2>4ba
2>4bc 2>4be 3>4c1 2>4c3 2>4c5 2>4c7 2>4c9 2>4cb 2>4cd 1>4c0 2>4d0 2>4d2 2>4d4 2>4d6 2>4d8
2>4da 2>4dc 2>4de 2>4e0 2>4e2 2>4e4 2>4e6 2>4e8 2>4ea 2>4ec 2>4ee 2>4f0 2>4f2 2>4f4 2>4f6
2>4f8 2>4fa 2>4fc 2>4fe 2>500 2>502 2>504 2>506 2>508 2>50a 2>50c 2>50e 2>510 2>512 2>514
2>516 2>518 2>51a 2>51c 2>51e 2>520 2>522 2>524 2>526 2>528 2>52a 2>52c 2>52e 32>531 1>532
1>533 1>534 1>535 1>536 1>537 1>538 1>539 1>53a 1>53b 1>53c 1>53d 1>53e 1>53f 1>540 1>541
1>542 1>543 1>544 1>545 1>546 1>547 1>548 1>549 1>54a 1>54b 1>54c 1>54d 1>54e 1>54f 1>550
1>551 1>552 1>553 1>554 1>555 1>556 1>535.552 b49>1c90 1>1c91 1>1c92 1>1c93 1>1c94 1>1c95
1>1c96 1>1c97 1>1c98 1>1c99 1>1c9a 1>1c9b 1>1c9c 1>1c9d 1>1c9e 1>1c9f 1>1ca0 1>1ca1 1>1ca2
1>1ca3 1>1ca4 1>1ca5 1>1ca6 1>1ca7 1>1ca8 1>1ca9 1>1caa 1>1cab 1>1cac 1>1cad 1>1cae 1>1caf
1>1cb0 1>1cb1 1>1cb2 1>1cb3 1>1cb4 1>1cb5 1>1cb6 1>1cb7 1>1cb8 1>1cb9 1>1cba 3>1cbd 1>1cbe
1>1cbf 2f9>13f0 1>13f1 1>13f2 1>13f3 1>13f4 1>13f5 883>412 1>414 1>41e 1>421 1>422 1>422 1>42a
1>462 1>a64a f1>a77d 4>2c63 11>a7c6 73>1e00 2>1e02 2>1e04 2>1e06 2>1e08 2>1e0a 2>1e0c 2>1e0e
2>1e10 2>1e12 2>1e14 2>1e16 2>1e18 2>1e1a 2>1e1c 2>1e1e 2>1e20 2>1e22 2>1e24 2>1e26 2>1e28
2>1e2a 2>1e2c 2>1e2e 2>1e30 2>1e32 2>1e34 2>1e36 2>1e38 2>1e3a 2>1e3c 2>1e3e 2>1e40 2>1e42
2>1e44 2>1e46 2>1e48 2>1e4a 2>1e4c 2>1e4e 2>1e50 2>1e52 2>1e54 2>1e56 2>1e58 2>1e5a 2>1e5c
2>1e5e 2>1e60 2>1e62 2>1e64 2>1e66 2>1e68 2>1e6a 2>1e6c 2>1e6e 2>1e70 2>1e72 2>1e74 2>1e76
2>1e78 2>1e7a 2>1e7c 2>1e7e 2>1e80 2>1e82 2>1e84 2>1e86 2>1e88 2>1e8a 2>1e8c 2>1e8e 2>1e90
2>1e92 2>1e94 1>48.331 1>54.308 1>57.30a 1>59.30a 1>41.2be 1>1e60 6>1ea0 2>1ea2 2>1ea4 2>1ea6
2>1ea8 2>1eaa 2>1eac 2>1eae 2>1eb0 2>1eb2 2>1eb4 2>1eb6 2>1eb8 2>1eba 2>1ebc 2>1ebe 2>1ec0
2>1ec2 2>1ec4 2>1ec6 2>1ec8 2>1eca 2>1ecc 2>1ece 2>1ed0 2>1ed2 2>1ed4 2>1ed6 2>1ed8 2>1eda
2>1edc 2>1ede 2>1ee0 2>1ee2 2>1ee4 2>1ee6 2>1ee8 2>1eea 2>1eec 2>1eee 2>1ef0 2>1ef2 2>1ef4
2>1ef6 2>1ef8 2>1efa 2>1efc 2>1efe 1>1f08 1>1f09 1>1f0a 1>1f0b 1>1f0c 1>1f0d 1>1f0e 1>1f0f
9>1f18 1>1f19 1>1f1a 1>1f1b 1>1f1c 1>1f1d b>1f28 1>1f29 1>1f2a 1>1f2b 1>1f2c 1>1f2d 1>1f2e
1>1f2f 9>1f38 1>1f39 1>1f3a 1>1f3b 1>1f3c 1>1f3d 1>1f3e 1>1f3f 9>1f48 1>1f49 1>1f4a 1>1f4b
1>1f4c 1>1f4d b>3a5.313 1>1f59 1>3a5.313.300 1>1f5b 1>3a5.313.301 1>1f5d 1>3a5.313.342 1>1f5f
9>1f68 1>1f69 1>1f6a 1>1f6b 1>1f6c 1>1f6d 1>1f6e 1>1f6f 9>1fba 1>1fbb 1>1fc8 1>1fc9 1>1fca
1>1fcb 1>1fda 1>1fdb 1>1ff8 1>1ff9 1>1fea 1>1feb 1>1ffa 1>1ffb 3>1f08.399 1>1f09.399
1>1f0a.399 1>1f0b.399 1>1f0c.399 1>1f0d.399 1>1f0e.399 1>1f0f.399 1>1f08.399 1>1f09.399
1>1f0a.399 1>1f0b.399 1>1f0c.399 1>1f0d.399 1>1f0e.399 1>1f0f.399 1>1f28.399 1>1f29.399
1>1f2a.399 1>1f2b.399 1>1f2c.399 1>1f2d.399 1>1f2e.399 1>1f2f.399 1>1f28.399 1>1f29.399
1>1f2a.399 1>1f2b.399 1>1f2c.399 1>1f2d.399 1>1f2e.399 1>1f2f.399 1>1f68.399 1>1f69.399
1>1f6a.399 1>1f6b.399 1>1f6c.399 1>1f6d.399 1>1f6e.399 1>1f6f.399 1>1f68.399 1>1f69.399
1>1f6a.399 1>1f6b.399 1>1f6c.399 1>1f6d.399 1>1f6e.399 1>1f6f.399 1>1fb8 1>1fb9 1>1fba.399
1>391.399 1>386.399 2>391.342 1>391.342.399 5>391.399 2>399 4>1fca.399 1>397.399 1>389.399
2>397.342 1>397.342.399 5>397.399 4>1fd8 1>1fd9 1>399.308.300 1>399.308.301 3>399.342
1>399.308.342 9>1fe8 1>1fe9 1>3a5.308.300 1>3a5.308.301 1>3a1.313 1>1fec 1>3a5.342
1>3a5.308.342 b>1ffa.399 1>3a9.399 1>38f.399 2>3a9.342 1>3a9.342.399 5>3a9.399 152>2132
22>2160 1>2161 1>2162 1>2163 1>2164 1>2165 1>2166 1>2167 1>2168 1>2169 1>216a 1>216b 1>216c
1>216d 1>216e 1>216f 5>2183 34c>24b6 1>24b7 1>24b8 1>24b9 1>24ba 1>24bb 1>24bc 1>24bd 1>24be
1>24bf 1>24c0 1>24c1 1>24c2 1>24c3 1>24c4 1>24c5 1>24c6 1>24c7 1>24c8 1>24c9 1>24ca 1>24cb
1>24cc 1>24cd 1>24ce 1>24cf 747>2c00 1>2c01 1>2c02 1>2c03 1>2c04 1>2c05 1>2c06 1>2c07 1>2c08
1>2c09 1>2c0a 1>2c0b 1>2c0c 1>2c0d 1>2c0e 1>2c0f 1>2c10 1>2c11 1>2c12 1>2c13 1>2c14 1>2c15
1>2c16 1>2c17 1>2c18 1>2c19 1>2c1a 1>2c1b 1>2c1c 1>2c1d 1>2c1e 1>2c1f 1>2c20 1>2c21 1>2c22
1>2c23 1>2c24 1>2c25 1>2c26 1>2c27 1>2c28 1>2c29 1>2c2a 1>2c2b 1>2c2c 1>2c2d 1>2c2e 1>2c2f
2>2c60 4>23a 1>23e 2>2c67 2>2c69 2>2c6b 7>2c72 3>2c75 b>2c80 2>2c82 2>2c84 2>2c86 2>2c88
2>2c8a 2>2c8c 2>2c8e 2>2c90 2>2c92 2>2c94 2>2c96 2>2c98 2>2c9a 2>2c9c 2>2c9e 2>2ca0 2>2ca2
2>2ca4 2>2ca6 2>2ca8 2>2caa 2>2cac 2>2cae 2>2cb0 2>2cb2 2>2cb4 2>2cb6 2>2cb8 2>2cba 2>2cbc
2>2cbe 2>2cc0 2>2cc2 2>2cc4 2>2cc6 2>2cc8 2>2cca 2>2ccc 2>2cce 2>2cd0 2>2cd2 2>2cd4 2>2cd6
2>2cd8 2>2cda 2>2cdc 2>2cde 2>2ce0 2>2ce2 9>2ceb 2>2ced 5>2cf2 d>10a0 1>10a1 1>10a2 1>10a3
1>10a4 1>10a5 1>10a6 1>10a7 1>10a8 1>10a9 1>10aa 1>10ab 1>10ac 1>10ad 1>10ae 1>10af 1>10b0
1>10b1 1>10b2 1>10b3 1>10b4 1>10b5 1>10b6 1>10b7 1>10b8 1>10b9 1>10ba 1>10bb 1>10bc 1>10bd
1>10be 1>10bf 1>10c0 1>10c1 1>10c2 1>10c3 1>10c4 1>10c5 2>10c7 6>10cd 7914>a640 2>a642 2>a644
2>a646 2>a648 2>a64a 2>a64c 2>a64e 2>a650 2>a652 2>a654 2>a656 2>a658 2>a65a 2>a65c 2>a65e
2>a660 2>a662 2>a664 2>a666 2>a668 2>a66a 2>a66c 14>a680 2>a682 2>a684 2>a686 2>a688 2>a68a
2>a68c 2>a68e 2>a690 2>a692 2>a694 2>a696 2>a698 2>a69a 88>a722 2>a724 2>a726 2>a728 2>a72a
2>a72c 2>a72e 4>a732 2>a734 2>a736 2>a738 2>a73a 2>a73c 2>a73e 2>a740 2>a742 2>a744 2>a746
2>a748 2>a74a 2>a74c 2>a74e 2>a750 2>a752 2>a754 2>a756 2>a758 2>a75a 2>a75c 2>a75e 2>a760
2>a762 2>a764 2>a766 2>a768 2>a76a 2>a76c 2>a76e b>a779 2>a77b 3>a77e 2>a780 2>a782 2>a784
2>a786 5>a78b 5>a790 2>a792 1>a7c4 3>a796 2>a798 2>a79a 2>a79c 2>a79e 2>a7a0 2>a7a2 2>a7a4
2>a7a6 2>a7a8 c>a7b4 2>a7b6 2>a7b8 2>a7ba 2>a7bc 2>a7be 2>a7c0 2>a7c2 5>a7c7 2>a7c9 7>a7d0
6>a7d6 2>a7d8 1d>a7f5 35d>a7b3 1d>13a0 1>13a1 1>13a2 1>13a3 1>13a4 1>13a5 1>13a6 1>13a7 1>13a8
1>13a9 1>13aa 1>13ab 1>13ac 1>13ad 1>13ae 1>13af 1>13b0 1>13b1 1>13b2 1>13b3 1>13b4 1>13b5
1>13b6 1>13b7 1>13b8 1>13b9 1>13ba 1>13bb 1>13bc 1>13bd 1>13be 1>13bf 1>13c0 1>13c1 1>13c2
1>13c3 1>13c4 1>13c5 1>13c6 1>13c7 1>13c8 1>13c9 1>13ca 1>13cb 1>13cc 1>13cd 1>13ce 1>13cf
1>13d0 1>13d1 1>13d2 1>13d3 1>13d4 1>13d5 1>13d6 1>13d7 1>13d8 1>13d9 1>13da 1>13db 1>13dc
1>13dd 1>13de 1>13df 1>13e0 1>13e1 1>13e2 1>13e3 1>13e4 1>13e5 1>13e6 1>13e7 1>13e8 1>13e9
1>13ea 1>13eb 1>13ec 1>13ed 1>13ee 1>13ef 4f41>46.46 1>46.49 1>46.4c 1>46.46.49 1>46.46.4c
1>53.54 1>53.54 d>544.546 1>544.535 1>544.53b 1>54e.546 1>544.53d 42a>ff21 1>ff22 1>ff23
1>ff24 1>ff25 1>ff26 1>ff27 1>ff28 1>ff29 1>ff2a 1>ff2b 1>ff2c 1>ff2d 1>ff2e 1>ff2f 1>ff30
1>ff31 1>ff32 1>ff33 1>ff34 1>ff35 1>ff36 1>ff37 1>ff38 1>ff39 1>ff3a 4ce>10400 1>10401
1>10402 1>10403 1>10404 1>10405 1>10406 1>10407 1>10408 1>10409 1>1040a 1>1040b 1>1040c
1>1040d 1>1040e 1>1040f 1>10410 1>10411 1>10412 1>10413 1>10414 1>10415 1>10416 1>10417
1>10418 1>10419 1>1041a 1>1041b 1>1041c 1>1041d 1>1041e 1>1041f 1>10420 1>10421 1>10422
1>10423 1>10424 1>10425 1>10426 1>10427 89>104b0 1>104b1 1>104b2 1>104b3 1>104b4 1>104b5
1>104b6 1>104b7 1>104b8 1>104b9 1>104ba 1>104bb 1>104bc 1>104bd 1>104be 1>104bf 1>104c0
1>104c1 1>104c2 1>104c3 1>104c4 1>104c5 1>104c6 1>104c7 1>104c8 1>104c9 1>104ca 1>104cb
1>104cc 1>104cd 1>104ce 1>104cf 1>104d0 1>104d1 1>104d2 1>104d3 9c>10570 1>10571 1>10572
1>10573 1>10574 1>10575 1>10576 1>10577 1>10578 1>10579 1>1057a 2>1057c 1>1057d 1>1057e
1>1057f 1>10580 1>10581 1>10582 1>10583 1>10584 1>10585 1>10586 1>10587 1>10588 1>10589
1>1058a 2>1058c 1>1058d 1>1058e 1>1058f 1>10590 1>10591 1>10592 2>10594 1>10595 704>10c80
1>10c81 1>10c82 1>10c83 1>10c84 1>10c85 1>10c86 1>10c87 1>10c88 1>10c89 1>10c8a 1>10c8b
1>10c8c 1>10c8d 1>10c8e 1>10c8f 1>10c90 1>10c91 1>10c92 1>10c93 1>10c94 1>10c95 1>10c96
1>10c97 1>10c98 1>10c99 1>10c9a 1>10c9b 1>10c9c 1>10c9d 1>10c9e 1>10c9f 1>10ca0 1>10ca1
1>10ca2 1>10ca3 1>10ca4 1>10ca5 1>10ca6 1>10ca7 1>10ca8 1>10ca9 1>10caa 1>10cab 1>10cac
1>10cad 1>10cae 1>10caf 1>10cb0 1>10cb1 1>10cb2 bce>118a0 1>118a1 1>118a2 1>118a3 1>118a4
1>118a5 1>118a6 1>118a7 1>118a8 1>118a9 1>118aa 1>118ab 1>118ac 1>118ad 1>118ae 1>118af
1>118b0 1>118b1 1>118b2 1>118b3 1>118b4 1>118b5 1>118b6 1>118b7 1>118b8 1>118b9 1>118ba
1>118bb 1>118bc 1>118bd 1>118be 1>118bf 5581>16e40 1>16e41 1>16e42 1>16e43 1>16e44 1>16e45
1>16e46 1>16e47 1>16e48 1>16e49 1>16e4a 1>16e4b 1>16e4c 1>16e4d 1>16e4e 1>16e4f 1>16e50
1>16e51 1>16e52 1>16e53 1>16e54 1>16e55 1>16e56 1>16e57 1>16e58 1>16e59 1>16e5a 1>16e5b
1>16e5c 1>16e5d 1>16e5e 1>16e5f 7aa3>1e900 1>1e901 1>1e902 1>1e903 1>1e904 1>1e905 1>1e906
1>1e907 1>1e908 1>1e909 1>1e90a 1>1e90b 1>1e90c 1>1e90d 1>1e90e 1>1e90f 1>1e910 1>1e911
1>1e912 1>1e913 1>1e914 1>1e915 1>1e916 1>1e917 1>1e918 1>1e919 1>1e91a 1>1e91b 1>1e91c
1>1e91d 1>1e91e 1>1e91f 1>1e920 1>1e921"

end CatalogGraph.Unicode
