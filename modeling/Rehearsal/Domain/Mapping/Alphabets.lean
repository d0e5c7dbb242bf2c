import Rehearsal.Text.CodeTable

/-!
# Alphabets

What characters stand for in names of domains. The alphabets up to U+1FFF.
-/

namespace Rehearsal.Domain

open Text

/-- Rows of what stands for something else. Those without values stand for nothing. -/
def alphabets : CodeTable :=
  .ofText "a0 20, a8 20 308, aa 61, ad, af 20 304, b2-b3 32, b4 20 301, b5 3bc, b8 20 327, b9 31, ba 6f,
    bc 31 2044 34, bd 31 2044 32, be 33 2044 34, c0-d6 e0, d8-de f8, 100-12e/2 101, 130 69 307,
    132 69 6a, 133 69 6a, 134 135, 136 137, 139-13d/2 13a, 13f 6c b7, 140 6c b7, 141-147/2 142,
    149 2bc 6e, 14a-176/2 14b, 178 ff, 179-17d/2 17a, 17f 73, 181 253, 182 183, 184 185, 186 254,
    187 188, 189-18a 256, 18b 18c, 18e 1dd, 18f 259, 190 25b, 191 192, 193 260, 194 263, 196 269,
    197 268, 198 199, 19c 26f, 19d 272, 19f 275, 1a0-1a4/2 1a1, 1a6 280, 1a7 1a8, 1a9 283,
    1ac 1ad, 1ae 288, 1af 1b0, 1b1-1b2 28a, 1b3 1b4, 1b5 1b6, 1b7 292, 1b8 1b9, 1bc 1bd,
    1c4 64 17e, 1c5 64 17e, 1c6 64 17e, 1c7 6c 6a, 1c8 6c 6a, 1c9 6c 6a, 1ca 6e 6a, 1cb 6e 6a,
    1cc 6e 6a, 1cd-1db/2 1ce, 1de-1ee/2 1df, 1f1 64 7a, 1f2 64 7a, 1f3 64 7a, 1f4 1f5, 1f6 195,
    1f7 1bf, 1f8-21e/2 1f9, 220 19e, 222-232/2 223, 23a 2c65, 23b 23c, 23d 19a, 23e 2c66, 241 242,
    243 180, 244 289, 245 28c, 246-24e/2 247, 2b0 68, 2b1 266, 2b2 6a, 2b3 72, 2b4 279, 2b5 27b,
    2b6 281, 2b7 77, 2b8 79, 2d8 20 306, 2d9 20 307, 2da 20 30a, 2db 20 328, 2dc 20 303,
    2dd 20 30b, 2e0 263, 2e1 6c, 2e2 73, 2e3 78, 2e4 295, 340-341 300, 343 313, 344 308 301,
    345 3b9, 34f, 370 371, 372 373, 374 2b9, 376 377, 37a 20 3b9, 37e 3b, 37f 3f3, 384 20 301,
    385 20 308 301, 386 3ac, 387 b7, 388-38a 3ad, 38c 3cc, 38e-38f 3cd, 391-3a1 3b1, 3a3-3ab 3c3,
    3cf 3d7, 3d0 3b2, 3d1 3b8, 3d2 3c5, 3d3 3cd, 3d4 3cb, 3d5 3c6, 3d6 3c0, 3d8-3ee/2 3d9,
    3f0 3ba, 3f1 3c1, 3f2 3c3, 3f4 3b8, 3f5 3b5, 3f7 3f8, 3f9 3c3, 3fa 3fb, 3fd-3ff 37b,
    400-40f 450, 410-42f 430, 460-480/2 461, 48a-4be/2 48b, 4c0 4cf, 4c1-4cd/2 4c2, 4d0-52e/2 4d1,
    531-556 561, 587 565 582, 675 627 674, 676 648 674, 677 6c7 674, 678 64a 674, 958 915 93c,
    959 916 93c, 95a 917 93c, 95b 91c 93c, 95c 921 93c, 95d 922 93c, 95e 92b 93c, 95f 92f 93c,
    9dc 9a1 9bc, 9dd 9a2 9bc, 9df 9af 9bc, a33 a32 a3c, a36 a38 a3c, a59 a16 a3c, a5a a17 a3c,
    a5b a1c a3c, a5e a2b a3c, b5c b21 b3c, b5d b22 b3c, e33 e4d e32, eb3 ecd eb2, edc eab e99,
    edd eab ea1, f0c f0b, f43 f42 fb7, f4d f4c fb7, f52 f51 fb7, f57 f56 fb7, f5c f5b fb7,
    f69 f40 fb5, f73 f71 f72, f75 f71 f74, f76 fb2 f80, f77 fb2 f71 f80, f78 fb3 f80,
    f79 fb3 f71 f80, f81 f71 f80, f93 f92 fb7, f9d f9c fb7, fa2 fa1 fb7, fa7 fa6 fb7, fac fab fb7,
    fb9 f90 fb5, 10a0-10c5 2d00, 10c7 2d27, 10cd 2d2d, 10fc 10dc, 115f-1160, 13f8-13fd 13f0,
    17b4-17b5, 180b-180f, 1c80 432, 1c81 434, 1c82 43e, 1c83-1c84 441, 1c85 442, 1c86 44a,
    1c87 463, 1c88 a64b, 1c89 1c8a, 1c90-1cba 10d0, 1cbd-1cbf 10fd, 1d2c 61, 1d2d e6, 1d2e 62,
    1d30-1d31 64, 1d32 1dd, 1d33-1d3a 67, 1d3c 6f, 1d3d 223, 1d3e 70, 1d3f 72, 1d40-1d41 74,
    1d42 77, 1d43 61, 1d44-1d45 250, 1d46 1d02, 1d47 62, 1d48-1d49 64, 1d4a 259, 1d4b-1d4c 25b,
    1d4d 67, 1d4f 6b, 1d50 6d, 1d51 14b, 1d52 6f, 1d53 254, 1d54-1d55 1d16, 1d56 70, 1d57-1d58 74,
    1d59 1d1d, 1d5a 26f, 1d5b 76, 1d5c 1d25, 1d5d-1d5f 3b2, 1d60-1d61 3c6, 1d62 69, 1d63 72,
    1d64-1d65 75, 1d66-1d67 3b2, 1d68 3c1, 1d69-1d6a 3c6, 1d78 43d, 1d9b 252, 1d9c 63, 1d9d 255,
    1d9e f0, 1d9f 25c, 1da0 66, 1da1 25f, 1da2 261, 1da3 265, 1da4-1da6 268, 1da7 1d7b, 1da8 29d,
    1da9 26d, 1daa 1d85, 1dab 29f, 1dac 271, 1dad 270, 1dae-1db1 272, 1db2 278, 1db3-1db4 282,
    1db5 1ab, 1db6-1db7 289, 1db8 1d1c, 1db9-1dba 28b, 1dbb 7a, 1dbc-1dbe 290, 1dbf 3b8,
    1e00-1e94/2 1e01, 1e9a 61 2be, 1e9b 1e61, 1e9e df, 1ea0-1efe/2 1ea1, 1f08-1f0f 1f00,
    1f18-1f1d 1f10, 1f28-1f2f 1f20, 1f38-1f3f 1f30, 1f48-1f4d 1f40, 1f59 1f51, 1f5b 1f53,
    1f5d 1f55, 1f5f 1f57, 1f68-1f6f 1f60, 1f71 3ac, 1f73 3ad, 1f75 3ae, 1f77 3af, 1f79 3cc,
    1f7b 3cd, 1f7d 3ce, 1f80 1f00 3b9, 1f81 1f01 3b9, 1f82 1f02 3b9, 1f83 1f03 3b9, 1f84 1f04 3b9,
    1f85 1f05 3b9, 1f86 1f06 3b9, 1f87 1f07 3b9, 1f88 1f00 3b9, 1f89 1f01 3b9, 1f8a 1f02 3b9,
    1f8b 1f03 3b9, 1f8c 1f04 3b9, 1f8d 1f05 3b9, 1f8e 1f06 3b9, 1f8f 1f07 3b9, 1f90 1f20 3b9,
    1f91 1f21 3b9, 1f92 1f22 3b9, 1f93 1f23 3b9, 1f94 1f24 3b9, 1f95 1f25 3b9, 1f96 1f26 3b9,
    1f97 1f27 3b9, 1f98 1f20 3b9, 1f99 1f21 3b9, 1f9a 1f22 3b9, 1f9b 1f23 3b9, 1f9c 1f24 3b9,
    1f9d 1f25 3b9, 1f9e 1f26 3b9, 1f9f 1f27 3b9, 1fa0 1f60 3b9, 1fa1 1f61 3b9, 1fa2 1f62 3b9,
    1fa3 1f63 3b9, 1fa4 1f64 3b9, 1fa5 1f65 3b9, 1fa6 1f66 3b9, 1fa7 1f67 3b9, 1fa8 1f60 3b9,
    1fa9 1f61 3b9, 1faa 1f62 3b9, 1fab 1f63 3b9, 1fac 1f64 3b9, 1fad 1f65 3b9, 1fae 1f66 3b9,
    1faf 1f67 3b9, 1fb2 1f70 3b9, 1fb3 3b1 3b9, 1fb4 3ac 3b9, 1fb7 1fb6 3b9, 1fb8-1fb9 1fb0,
    1fba 1f70, 1fbb 3ac, 1fbc 3b1 3b9, 1fbd 20 313, 1fbe 3b9, 1fbf 20 313, 1fc0 20 342,
    1fc1 20 308 342, 1fc2 1f74 3b9, 1fc3 3b7 3b9, 1fc4 3ae 3b9, 1fc7 1fc6 3b9, 1fc8 1f72,
    1fc9 3ad, 1fca 1f74, 1fcb 3ae, 1fcc 3b7 3b9, 1fcd 20 313 300, 1fce 20 313 301,
    1fcf 20 313 342, 1fd3 390, 1fd8-1fd9 1fd0, 1fda 1f76, 1fdb 3af, 1fdd 20 314 300,
    1fde 20 314 301, 1fdf 20 314 342, 1fe3 3b0, 1fe8-1fe9 1fe0, 1fea 1f7a, 1feb 3cd, 1fec 1fe5,
    1fed 20 308 300, 1fee 20 308 301, 1fef 60, 1ff2 1f7c 3b9, 1ff3 3c9 3b9, 1ff4 3ce 3b9,
    1ff7 1ff6 3b9, 1ff8 1f78, 1ff9 3cc, 1ffa 1f7c, 1ffb 3ce, 1ffc 3c9 3b9, 1ffd 20 301,
    1ffe 20 314"

end Rehearsal.Domain
