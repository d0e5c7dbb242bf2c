import Rehearsal.Text.CodeTable

/-!
# Symbols

What characters stand for in names of domains. Punctuation, numbers in frames and other symbols: U+2000 to U+2FFF.
-/

namespace Rehearsal.Domain

open Text

/-- Rows of what stands for something else. Those without values stand for nothing. -/
def symbols : CodeTable :=
  .ofText "2000 20, 2001 20, 2002 20, 2003 20, 2004 20, 2005 20, 2006 20, 2007 20, 2008 20, 2009 20,
    200a 20, 200b, 2011 2010, 2017 20 333, 202f 20, 2033 2032 2032, 2034 2032 2032 2032,
    2036 2035 2035, 2037 2035 2035 2035, 203c 21 21, 203e 20 305, 2047 3f 3f, 2048 3f 21,
    2049 21 3f, 2057 2032 2032 2032 2032, 205f 20, 2060-2064, 206a-206f, 2070 30, 2071 69,
    2074-2079 34, 207a 2b, 207b 2212, 207c 3d, 207d-207e 28, 207f 6e, 2080-2089 30, 208a 2b,
    208b 2212, 208c 3d, 208d-208e 28, 2090 61, 2091 65, 2092 6f, 2093 78, 2094 259, 2095 68,
    2096-2099 6b, 209a 70, 209b-209c 73, 20a8 72 73, 2100 61 2f 63, 2101 61 2f 73, 2102 63,
    2103 b0 63, 2105 63 2f 6f, 2106 63 2f 75, 2107 25b, 2109 b0 66, 210a-210b 67, 210c 68,
    210d 68, 210e 68, 210f 127, 2110 69, 2111 69, 2112 6c, 2113 6c, 2115 6e, 2116 6e 6f,
    2119-211b 70, 211c 72, 211d 72, 2120 73 6d, 2121 74 65 6c, 2122 74 6d, 2124 7a, 2126 3c9,
    2128 7a, 212a 6b, 212b e5, 212c-212d 62, 212f 65, 2130-2131 65, 2132 214e, 2133 6d, 2134 6f,
    2135-2138 5d0, 2139 69, 213b 66 61 78, 213c 3c0, 213d 3b3, 213e 3b3, 213f 3c0, 2140 2211,
    2145 64, 2146-2147 64, 2148-2149 69, 2150 31 2044 37, 2151 31 2044 39, 2152 31 2044 31 30,
    2153 31 2044 33, 2154 32 2044 33, 2155 31 2044 35, 2156 32 2044 35, 2157 33 2044 35,
    2158 34 2044 35, 2159 31 2044 36, 215a 35 2044 36, 215b 31 2044 38, 215c 33 2044 38,
    215d 35 2044 38, 215e 37 2044 38, 215f 31 2044, 2160 69, 2161 69 69, 2162 69 69 69,
    2163 69 76, 2164 76, 2165 76 69, 2166 76 69 69, 2167 76 69 69 69, 2168 69 78, 2169 78,
    216a 78 69, 216b 78 69 69, 216c 6c, 216d-216e 63, 216f 6d, 2170 69, 2171 69 69, 2172 69 69 69,
    2173 69 76, 2174 76, 2175 76 69, 2176 76 69 69, 2177 76 69 69 69, 2178 69 78, 2179 78,
    217a 78 69, 217b 78 69 69, 217c 6c, 217d-217e 63, 217f 6d, 2183 2184, 2189 30 2044 33,
    222c 222b 222b, 222d 222b 222b 222b, 222f 222e 222e, 2230 222e 222e 222e, 2329-232a 3008,
    2460-2468 31, 2469 31 30, 246a 31 31, 246b 31 32, 246c 31 33, 246d 31 34, 246e 31 35,
    246f 31 36, 2470 31 37, 2471 31 38, 2472 31 39, 2473 32 30, 2474 28 31 29, 2475 28 32 29,
    2476 28 33 29, 2477 28 34 29, 2478 28 35 29, 2479 28 36 29, 247a 28 37 29, 247b 28 38 29,
    247c 28 39 29, 247d 28 31 30 29, 247e 28 31 31 29, 247f 28 31 32 29, 2480 28 31 33 29,
    2481 28 31 34 29, 2482 28 31 35 29, 2483 28 31 36 29, 2484 28 31 37 29, 2485 28 31 38 29,
    2486 28 31 39 29, 2487 28 32 30 29, 249c 28 61 29, 249d 28 62 29, 249e 28 63 29,
    249f 28 64 29, 24a0 28 65 29, 24a1 28 66 29, 24a2 28 67 29, 24a3 28 68 29, 24a4 28 69 29,
    24a5 28 6a 29, 24a6 28 6b 29, 24a7 28 6c 29, 24a8 28 6d 29, 24a9 28 6e 29, 24aa 28 6f 29,
    24ab 28 70 29, 24ac 28 71 29, 24ad 28 72 29, 24ae 28 73 29, 24af 28 74 29, 24b0 28 75 29,
    24b1 28 76 29, 24b2 28 77 29, 24b3 28 78 29, 24b4 28 79 29, 24b5 28 7a 29, 24b6-24cf 61,
    24d0-24e9 61, 24ea 30, 2a0c 222b 222b 222b 222b, 2a74 3a 3a 3d, 2a75 3d 3d, 2a76 3d 3d 3d,
    2adc 2add 338, 2c00-2c2f 2c30, 2c60 2c61, 2c62 26b, 2c63 1d7d, 2c64 27d, 2c67-2c6b/2 2c68,
    2c6d 251, 2c6e 271, 2c6f 250, 2c70 252, 2c72 2c73, 2c75 2c76, 2c7c 6a, 2c7d 76, 2c7e-2c7f 23f,
    2c80-2ce2/2 2c81, 2ceb 2cec, 2ced 2cee, 2cf2 2cf3, 2d6f 2d61, 2e9f 6bcd, 2ef3 9f9f, 2f00 4e00,
    2f01 4e28, 2f02 4e36, 2f03 4e3f, 2f04 4e59, 2f05 4e85, 2f06 4e8c, 2f07 4ea0, 2f08 4eba,
    2f09 513f, 2f0a 5165, 2f0b 516b, 2f0c 5182, 2f0d 5196, 2f0e 51ab, 2f0f 51e0, 2f10 51f5,
    2f11 5200, 2f12 529b, 2f13 52f9, 2f14 5315, 2f15 531a, 2f16 5338, 2f17 5341, 2f18 535c,
    2f19 5369, 2f1a 5382, 2f1b 53b6, 2f1c 53c8, 2f1d 53e3, 2f1e 56d7, 2f1f 571f, 2f20 58eb,
    2f21 5902, 2f22 590a, 2f23 5915, 2f24 5927, 2f25 5973, 2f26 5b50, 2f27 5b80, 2f28 5bf8,
    2f29 5c0f, 2f2a 5c22, 2f2b 5c38, 2f2c 5c6e, 2f2d 5c71, 2f2e 5ddb, 2f2f 5de5, 2f30 5df1,
    2f31 5dfe, 2f32 5e72, 2f33 5e7a, 2f34 5e7f, 2f35 5ef4, 2f36 5efe, 2f37 5f0b, 2f38 5f13,
    2f39 5f50, 2f3a 5f61, 2f3b 5f73, 2f3c 5fc3, 2f3d 6208, 2f3e 6236, 2f3f 624b, 2f40 652f,
    2f41 6534, 2f42 6587, 2f43 6597, 2f44 65a4, 2f45 65b9, 2f46 65e0, 2f47 65e5, 2f48 66f0,
    2f49 6708, 2f4a 6728, 2f4b 6b20, 2f4c 6b62, 2f4d 6b79, 2f4e 6bb3, 2f4f 6bcb, 2f50 6bd4,
    2f51 6bdb, 2f52 6c0f, 2f53 6c14, 2f54 6c34, 2f55 706b, 2f56 722a, 2f57 7236, 2f58 723b,
    2f59 723f, 2f5a 7247, 2f5b 7259, 2f5c 725b, 2f5d 72ac, 2f5e 7384, 2f5f 7389, 2f60 74dc,
    2f61 74e6, 2f62 7518, 2f63 751f, 2f64 7528, 2f65 7530, 2f66 758b, 2f67 7592, 2f68 7676,
    2f69 767d, 2f6a 76ae, 2f6b 76bf, 2f6c 76ee, 2f6d 77db, 2f6e 77e2, 2f6f 77f3, 2f70 793a,
    2f71 79b8, 2f72 79be, 2f73 7a74, 2f74 7acb, 2f75 7af9, 2f76 7c73, 2f77 7cf8, 2f78 7f36,
    2f79 7f51, 2f7a 7f8a, 2f7b 7fbd, 2f7c 8001, 2f7d 800c, 2f7e 8012, 2f7f 8033, 2f80 807f,
    2f81 8089, 2f82 81e3, 2f83 81ea, 2f84 81f3, 2f85 81fc, 2f86 820c, 2f87 821b, 2f88 821f,
    2f89 826e, 2f8a 8272, 2f8b 8278, 2f8c 864d, 2f8d 866b, 2f8e 8840, 2f8f 884c, 2f90 8863,
    2f91 897e, 2f92 898b, 2f93 89d2, 2f94 8a00, 2f95 8c37, 2f96 8c46, 2f97 8c55, 2f98 8c78,
    2f99 8c9d, 2f9a 8d64, 2f9b 8d70, 2f9c 8db3, 2f9d 8eab, 2f9e 8eca, 2f9f 8f9b, 2fa0 8fb0,
    2fa1 8fb5, 2fa2 9091, 2fa3 9149, 2fa4 91c6, 2fa5 91cc, 2fa6 91d1, 2fa7 9577, 2fa8 9580,
    2fa9 961c, 2faa 96b6, 2fab 96b9, 2fac 96e8, 2fad 9751, 2fae 975e, 2faf 9762, 2fb0 9769,
    2fb1 97cb, 2fb2 97ed, 2fb3 97f3, 2fb4 9801, 2fb5 98a8, 2fb6 98db, 2fb7 98df, 2fb8 9996,
    2fb9 9999, 2fba 99ac, 2fbb 9aa8, 2fbc 9ad8, 2fbd 9adf, 2fbe 9b25, 2fbf 9b2f, 2fc0 9b32,
    2fc1 9b3c, 2fc2 9b5a, 2fc3 9ce5, 2fc4 9e75, 2fc5 9e7f, 2fc6 9ea5, 2fc7 9ebb, 2fc8 9ec3,
    2fc9 9ecd, 2fca 9ed1, 2fcb 9ef9, 2fcc 9efd, 2fcd 9f0e, 2fce 9f13, 2fcf 9f20, 2fd0 9f3b,
    2fd1 9f4a, 2fd2 9f52, 2fd3 9f8d, 2fd4 9f9c, 2fd5 9fa0"

end Rehearsal.Domain
