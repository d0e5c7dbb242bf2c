import Rehearsal.Text.CodeTable

/-!
# Kana, squares and further letters

What characters stand for in names of domains. U+3000 to U+F8FF.
-/

namespace Rehearsal.Domain

open Text

/-- Rows of what stands for something else. Those without values stand for nothing. -/
def asian : CodeTable :=
  .ofText "3000 20, 3002 2e, 3036 3012, 3038 5341, 3039-303a 5344, 309b 20 3099, 309c 20 309a,
    309f 3088 308a, 30ff 30b3 30c8, 3131-3132 1100, 3133 11aa, 3134 1102, 3135-3136 11ac,
    3137-3139 1103, 313a-313f 11b0, 3140 111a, 3141-3143 1106, 3144 1121, 3145-314e 1109,
    314f-3163 1161, 3164, 3165-3166 1114, 3167-3168 11c7, 3169 11cc, 316a 11ce, 316b 11d3,
    316c 11d7, 316d 11d9, 316e 111c, 316f 11dd, 3170 11df, 3171-3172 111d, 3173 1120,
    3174-3175 1122, 3176 1127, 3177 1129, 3178-317c 112b, 317d 1132, 317e 1136, 317f 1140,
    3180 1147, 3181 114c, 3182-3183 11f1, 3184-3186 1157, 3187-3188 1184, 3189 1188,
    318a-318b 1191, 318c 1194, 318d 119e, 318e 11a1, 3192 4e00, 3193 4e8c, 3194 4e09, 3195 56db,
    3196 4e0a, 3197 4e2d, 3198 4e0b, 3199 7532, 319a 4e59, 319b 4e19, 319c 4e01, 319d 5929,
    319e 5730, 319f 4eba, 3200 28 1100 29, 3201 28 1102 29, 3202 28 1103 29, 3203 28 1105 29,
    3204 28 1106 29, 3205 28 1107 29, 3206 28 1109 29, 3207 28 110b 29, 3208 28 110c 29,
    3209 28 110e 29, 320a 28 110f 29, 320b 28 1110 29, 320c 28 1111 29, 320d 28 1112 29,
    320e 28 ac00 29, 320f 28 b098 29, 3210 28 b2e4 29, 3211 28 b77c 29, 3212 28 b9c8 29,
    3213 28 bc14 29, 3214 28 c0ac 29, 3215 28 c544 29, 3216 28 c790 29, 3217 28 cc28 29,
    3218 28 ce74 29, 3219 28 d0c0 29, 321a 28 d30c 29, 321b 28 d558 29, 321c 28 c8fc 29,
    321d 28 c624 c804 29, 321e 28 c624 d6c4 29, 3220 28 4e00 29, 3221 28 4e8c 29, 3222 28 4e09 29,
    3223 28 56db 29, 3224 28 4e94 29, 3225 28 516d 29, 3226 28 4e03 29, 3227 28 516b 29,
    3228 28 4e5d 29, 3229 28 5341 29, 322a 28 6708 29, 322b 28 706b 29, 322c 28 6c34 29,
    322d 28 6728 29, 322e 28 91d1 29, 322f 28 571f 29, 3230 28 65e5 29, 3231 28 682a 29,
    3232 28 6709 29, 3233 28 793e 29, 3234 28 540d 29, 3235 28 7279 29, 3236 28 8ca1 29,
    3237 28 795d 29, 3238 28 52b4 29, 3239 28 4ee3 29, 323a 28 547c 29, 323b 28 5b66 29,
    323c 28 76e3 29, 323d 28 4f01 29, 323e 28 8cc7 29, 323f 28 5354 29, 3240 28 796d 29,
    3241 28 4f11 29, 3242 28 81ea 29, 3243 28 81f3 29, 3244 554f, 3245 5e7c, 3246 6587, 3247 7b8f,
    3250 70 74 65, 3251 32 31, 3252 32 32, 3253 32 33, 3254 32 34, 3255 32 35, 3256 32 36,
    3257 32 37, 3258 32 38, 3259 32 39, 325a 33 30, 325b 33 31, 325c 33 32, 325d 33 33,
    325e 33 34, 325f 33 35, 3260 1100, 3261-3262 1102, 3263-3265 1105, 3266 1109, 3267-3268 110b,
    3269-326d 110e, 326e ac00, 326f b098, 3270 b2e4, 3271 b77c, 3272 b9c8, 3273 bc14, 3274 c0ac,
    3275 c544, 3276 c790, 3277 cc28, 3278 ce74, 3279 d0c0, 327a d30c, 327b d558, 327c cc38 ace0,
    327d c8fc c758, 327e c6b0, 3280 4e00, 3281 4e8c, 3282 4e09, 3283 56db, 3284 4e94, 3285 516d,
    3286 4e03, 3287 516b, 3288 4e5d, 3289 5341, 328a 6708, 328b 706b, 328c 6c34, 328d 6728,
    328e 91d1, 328f 571f, 3290 65e5, 3291 682a, 3292 6709, 3293 793e, 3294 540d, 3295 7279,
    3296 8ca1, 3297 795d, 3298 52b4, 3299 79d8, 329a 7537, 329b 5973, 329c 9069, 329d 512a,
    329e 5370, 329f 6ce8, 32a0 9805, 32a1 4f11, 32a2 5199, 32a3 6b63, 32a4 4e0a, 32a5 4e2d,
    32a6 4e0b, 32a7 5de6, 32a8 53f3, 32a9 533b, 32aa 5b97, 32ab 5b66, 32ac 76e3, 32ad 4f01,
    32ae 8cc7, 32af 5354, 32b0 591c, 32b1 33 36, 32b2 33 37, 32b3 33 38, 32b4 33 39, 32b5 34 30,
    32b6 34 31, 32b7 34 32, 32b8 34 33, 32b9 34 34, 32ba 34 35, 32bb 34 36, 32bc 34 37,
    32bd 34 38, 32be 34 39, 32bf 35 30, 32c0 31 6708, 32c1 32 6708, 32c2 33 6708, 32c3 34 6708,
    32c4 35 6708, 32c5 36 6708, 32c6 37 6708, 32c7 38 6708, 32c8 39 6708, 32c9 31 30 6708,
    32ca 31 31 6708, 32cb 31 32 6708, 32cc 68 67, 32cd 65 72 67, 32ce 65 76, 32cf 6c 74 64,
    32d0 30a2, 32d1 30a4, 32d2 30a6, 32d3 30a8, 32d4-32d5 30aa, 32d6 30ad, 32d7 30af, 32d8 30b1,
    32d9 30b3, 32da 30b5, 32db 30b7, 32dc 30b9, 32dd 30bb, 32de 30bd, 32df 30bf, 32e0 30c1,
    32e1 30c4, 32e2 30c6, 32e3 30c8, 32e4-32e9 30ca, 32ea 30d2, 32eb 30d5, 32ec 30d8, 32ed 30db,
    32ee-32f2 30de, 32f3 30e4, 32f4 30e6, 32f5-32fa 30e8, 32fb-32fe 30ef, 32ff 4ee4 548c,
    3300 30a2 30d1 30fc 30c8, 3301 30a2 30eb 30d5 30a1, 3302 30a2 30f3 30da 30a2,
    3303 30a2 30fc 30eb, 3304 30a4 30cb 30f3 30b0, 3305 30a4 30f3 30c1, 3306 30a6 30a9 30f3,
    3307 30a8 30b9 30af 30fc 30c9, 3308 30a8 30fc 30ab 30fc, 3309 30aa 30f3 30b9,
    330a 30aa 30fc 30e0, 330b 30ab 30a4 30ea, 330c 30ab 30e9 30c3 30c8, 330d 30ab 30ed 30ea 30fc,
    330e 30ac 30ed 30f3, 330f 30ac 30f3 30de, 3310 30ae 30ac, 3311 30ae 30cb 30fc,
    3312 30ad 30e5 30ea 30fc, 3313 30ae 30eb 30c0 30fc, 3314 30ad 30ed,
    3315 30ad 30ed 30b0 30e9 30e0, 3316 30ad 30ed 30e1 30fc 30c8 30eb,
    3317 30ad 30ed 30ef 30c3 30c8, 3318 30b0 30e9 30e0, 3319 30b0 30e9 30e0 30c8 30f3,
    331a 30af 30eb 30bc 30a4 30ed, 331b 30af 30ed 30fc 30cd, 331c 30b1 30fc 30b9,
    331d 30b3 30eb 30ca, 331e 30b3 30fc 30dd, 331f 30b5 30a4 30af 30eb,
    3320 30b5 30f3 30c1 30fc 30e0, 3321 30b7 30ea 30f3 30b0, 3322 30bb 30f3 30c1,
    3323 30bb 30f3 30c8, 3324 30c0 30fc 30b9, 3325 30c7 30b7, 3326 30c9 30eb, 3327 30c8 30f3,
    3328 30ca 30ce, 3329 30ce 30c3 30c8, 332a 30cf 30a4 30c4, 332b 30d1 30fc 30bb 30f3 30c8,
    332c 30d1 30fc 30c4, 332d 30d0 30fc 30ec 30eb, 332e 30d4 30a2 30b9 30c8 30eb,
    332f 30d4 30af 30eb, 3330 30d4 30b3, 3331 30d3 30eb, 3332 30d5 30a1 30e9 30c3 30c9,
    3333 30d5 30a3 30fc 30c8, 3334 30d6 30c3 30b7 30a7 30eb, 3335 30d5 30e9 30f3,
    3336 30d8 30af 30bf 30fc 30eb, 3337 30da 30bd, 3338 30da 30cb 30d2, 3339 30d8 30eb 30c4,
    333a 30da 30f3 30b9, 333b 30da 30fc 30b8, 333c 30d9 30fc 30bf, 333d 30dd 30a4 30f3 30c8,
    333e 30dc 30eb 30c8, 333f 30db 30f3, 3340 30dd 30f3 30c9, 3341 30db 30fc 30eb,
    3342 30db 30fc 30f3, 3343 30de 30a4 30af 30ed, 3344 30de 30a4 30eb, 3345 30de 30c3 30cf,
    3346 30de 30eb 30af, 3347 30de 30f3 30b7 30e7 30f3, 3348 30df 30af 30ed 30f3, 3349 30df 30ea,
    334a 30df 30ea 30d0 30fc 30eb, 334b 30e1 30ac, 334c 30e1 30ac 30c8 30f3,
    334d 30e1 30fc 30c8 30eb, 334e 30e4 30fc 30c9, 334f 30e4 30fc 30eb, 3350 30e6 30a2 30f3,
    3351 30ea 30c3 30c8 30eb, 3352 30ea 30e9, 3353 30eb 30d4 30fc, 3354 30eb 30fc 30d6 30eb,
    3355 30ec 30e0, 3356 30ec 30f3 30c8 30b2 30f3, 3357 30ef 30c3 30c8, 3358 30 70b9,
    3359 31 70b9, 335a 32 70b9, 335b 33 70b9, 335c 34 70b9, 335d 35 70b9, 335e 36 70b9,
    335f 37 70b9, 3360 38 70b9, 3361 39 70b9, 3362 31 30 70b9, 3363 31 31 70b9, 3364 31 32 70b9,
    3365 31 33 70b9, 3366 31 34 70b9, 3367 31 35 70b9, 3368 31 36 70b9, 3369 31 37 70b9,
    336a 31 38 70b9, 336b 31 39 70b9, 336c 32 30 70b9, 336d 32 31 70b9, 336e 32 32 70b9,
    336f 32 33 70b9, 3370 32 34 70b9, 3371 68 70 61, 3372 64 61, 3373 61 75, 3374 62 61 72,
    3375 6f 76, 3376 70 63, 3377 64 6d, 3378 64 6d 32, 3379 64 6d 33, 337a 69 75, 337b 5e73 6210,
    337c 662d 548c, 337d 5927 6b63, 337e 660e 6cbb, 337f 682a 5f0f 4f1a 793e, 3380 70 61,
    3381 6e 61, 3382 3bc 61, 3383 6d 61, 3384 6b 61, 3385 6b 62, 3386 6d 62, 3387 67 62,
    3388 63 61 6c, 3389 6b 63 61 6c, 338a 70 66, 338b 6e 66, 338c 3bc 66, 338d 3bc 67, 338e 6d 67,
    338f 6b 67, 3390 68 7a, 3391 6b 68 7a, 3392 6d 68 7a, 3393 67 68 7a, 3394 74 68 7a,
    3395 3bc 6c, 3396 6d 6c, 3397 64 6c, 3398 6b 6c, 3399 66 6d, 339a 6e 6d, 339b 3bc 6d,
    339c 6d 6d, 339d 63 6d, 339e 6b 6d, 339f 6d 6d 32, 33a0 63 6d 32, 33a1 6d 32, 33a2 6b 6d 32,
    33a3 6d 6d 33, 33a4 63 6d 33, 33a5 6d 33, 33a6 6b 6d 33, 33a7 6d 2215 73, 33a8 6d 2215 73 32,
    33a9 70 61, 33aa 6b 70 61, 33ab 6d 70 61, 33ac 67 70 61, 33ad 72 61 64, 33ae 72 61 64 2215 73,
    33af 72 61 64 2215 73 32, 33b0 70 73, 33b1 6e 73, 33b2 3bc 73, 33b3 6d 73, 33b4 70 76,
    33b5 6e 76, 33b6 3bc 76, 33b7 6d 76, 33b8 6b 76, 33b9 6d 76, 33ba 70 77, 33bb 6e 77,
    33bc 3bc 77, 33bd 6d 77, 33be 6b 77, 33bf 6d 77, 33c0 6b 3c9, 33c1 6d 3c9, 33c3 62 71,
    33c4 63 63, 33c5 63 64, 33c6 63 2215 6b 67, 33c8 64 62, 33c9 67 79, 33ca 68 61, 33cb 68 70,
    33cc 69 6e, 33cd 6b 6b, 33ce 6b 6d, 33cf 6b 74, 33d0 6c 6d, 33d1 6c 6e, 33d2 6c 6f 67,
    33d3 6c 78, 33d4 6d 62, 33d5 6d 69 6c, 33d6 6d 6f 6c, 33d7 70 68, 33d9 70 70 6d, 33da 70 72,
    33db 73 72, 33dc 73 76, 33dd 77 62, 33de 76 2215 6d, 33df 61 2215 6d, 33e0 31 65e5,
    33e1 32 65e5, 33e2 33 65e5, 33e3 34 65e5, 33e4 35 65e5, 33e5 36 65e5, 33e6 37 65e5,
    33e7 38 65e5, 33e8 39 65e5, 33e9 31 30 65e5, 33ea 31 31 65e5, 33eb 31 32 65e5,
    33ec 31 33 65e5, 33ed 31 34 65e5, 33ee 31 35 65e5, 33ef 31 36 65e5, 33f0 31 37 65e5,
    33f1 31 38 65e5, 33f2 31 39 65e5, 33f3 32 30 65e5, 33f4 32 31 65e5, 33f5 32 32 65e5,
    33f6 32 33 65e5, 33f7 32 34 65e5, 33f8 32 35 65e5, 33f9 32 36 65e5, 33fa 32 37 65e5,
    33fb 32 38 65e5, 33fc 32 39 65e5, 33fd 33 30 65e5, 33fe 33 31 65e5, 33ff 67 61 6c,
    a640-a66c/2 a641, a680-a69a/2 a681, a69c 44a, a69d 44c, a722-a72e/2 a723, a732-a76e/2 a733,
    a770 a76f, a779 a77a, a77b a77c, a77d 1d79, a77e-a786/2 a77f, a78b a78c, a78d 265, a790 a791,
    a792 a793, a796-a7a8/2 a797, a7aa 266, a7ab 25c, a7ac 261, a7ad 26c, a7ae 26a, a7b0 29e,
    a7b1 287, a7b2 29d, a7b3 ab53, a7b4-a7c2/2 a7b5, a7c4 a794, a7c5 282, a7c6 1d8e, a7c7 a7c8,
    a7c9 a7ca, a7cb 264, a7cc-a7da/2 a7cd, a7dc 19b, a7f1 73, a7f2 63, a7f3 66, a7f4 71,
    a7f5 a7f6, a7f8 127, a7f9 153, ab5c a727, ab5d ab37, ab5e 26b, ab5f ab52, ab69 28d,
    ab70-abbf 13a0"

end Rehearsal.Domain
