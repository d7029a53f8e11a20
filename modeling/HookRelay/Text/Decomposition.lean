import HookRelay.Text.CodeTable

namespace HookRelay.Decomposition

/-- A `p` may be composed again from its two parts, of which the first may have parts of its own; a
`q` only falls apart, and all of its parts are given. -/
def table : CodeTable := .read
  "c0p41,300 0p41,301 0p41,302 0p41,303 0p41,308 0p41,30a 1p43,327 0p45,300 0p45,301 0p45,302
   0p45,308 0p49,300 0p49,301 0p49,302 0p49,308 1p4e,303 0p4f,300 0p4f,301 0p4f,302 0p4f,303
   0p4f,308 2p55,300 0p55,301 0p55,302 0p55,308 0p59,301 2p61,300 0p61,301 0p61,302 0p61,303
   0p61,308 0p61,30a 1p63,327 0p65,300 0p65,301 0p65,302 0p65,308 0p69,300 0p69,301 0p69,302
   0p69,308 1p6e,303 0p6f,300 0p6f,301 0p6f,302 0p6f,303 0p6f,308 2p75,300 0p75,301 0p75,302
   0p75,308 0p79,301 1p79,308 0p41,304 0p61,304 0p41,306 0p61,306 0p41,328 0p61,328 0p43,301
   0p63,301 0p43,302 0p63,302 0p43,307 0p63,307 0p43,30c 0p63,30c 0p44,30c 0p64,30c 2p45,304
   0p65,304 0p45,306 0p65,306 0p45,307 0p65,307 0p45,328 0p65,328 0p45,30c 0p65,30c 0p47,302
   0p67,302 0p47,306 0p67,306 0p47,307 0p67,307 0p47,327 0p67,327 0p48,302 0p68,302 2p49,303
   0p69,303 0p49,304 0p69,304 0p49,306 0p69,306 0p49,328 0p69,328 0p49,307 3p4a,302 0p6a,302
   0p4b,327 0p6b,327 1p4c,301 0p6c,301 0p4c,327 0p6c,327 0p4c,30c 0p6c,30c 4p4e,301 0p6e,301
   0p4e,327 0p6e,327 0p4e,30c 0p6e,30c 3p4f,304 0p6f,304 0p4f,306 0p6f,306 0p4f,30b 0p6f,30b
   2p52,301 0p72,301 0p52,327 0p72,327 0p52,30c 0p72,30c 0p53,301 0p73,301 0p53,302 0p73,302
   0p53,327 0p73,327 0p53,30c 0p73,30c 0p54,327 0p74,327 0p54,30c 0p74,30c 2p55,303 0p75,303
   0p55,304 0p75,304 0p55,306 0p75,306 0p55,30a 0p75,30a 0p55,30b 0p75,30b 0p55,328 0p75,328
   0p57,302 0p77,302 0p59,302 0p79,302 0p59,308 0p5a,301 0p7a,301 0p5a,307 0p7a,307 0p5a,30c
   0p7a,30c 21p4f,31b 0p6f,31b dp55,31b 0p75,31b 1cp41,30c 0p61,30c 0p49,30c 0p69,30c 0p4f,30c
   0p6f,30c 0p55,30c 0p75,30c 0pdc,304 0pfc,304 0pdc,301 0pfc,301 0pdc,30c 0pfc,30c 0pdc,300
   0pfc,300 1pc4,304 0pe4,304 0p226,304 0p227,304 0pc6,304 0pe6,304 2p47,30c 0p67,30c 0p4b,30c
   0p6b,30c 0p4f,328 0p6f,328 0p1ea,304 0p1eb,304 0p1b7,30c 0p292,30c 0p6a,30c 3p47,301 0p67,301
   2p4e,300 0p6e,300 0pc5,301 0pe5,301 0pc6,301 0pe6,301 0pd8,301 0pf8,301 0p41,30f 0p61,30f
   0p41,311 0p61,311 0p45,30f 0p65,30f 0p45,311 0p65,311 0p49,30f 0p69,30f 0p49,311 0p69,311
   0p4f,30f 0p6f,30f 0p4f,311 0p6f,311 0p52,30f 0p72,30f 0p52,311 0p72,311 0p55,30f 0p75,30f
   0p55,311 0p75,311 0p53,326 0p73,326 0p54,326 0p74,326 2p48,30c 0p68,30c 6p41,307 0p61,307
   0p45,327 0p65,327 0pd6,304 0pf6,304 0pd5,304 0pf5,304 0p4f,307 0p6f,307 0p22e,304 0p22f,304
   0p59,304 0p79,304 10cq300 0q301 1q313 0q308,301 2fq2b9 9q3b 6pa8,301 0p391,301 0qb7 0p395,301
   0p397,301 0p399,301 1p39f,301 1p3a5,301 0p3a9,301 0p3ca,301 19p399,308 0p3a5,308 0p3b1,301
   0p3b5,301 0p3b7,301 0p3b9,301 0p3cb,301 19p3b9,308 0p3c5,308 0p3bf,301 0p3c5,301 0p3c9,301
   4p3d2,301 0p3d2,308 2bp415,300 0p415,308 1p413,301 3p406,308 4p41a,301 0p418,300 0p423,306
   ap418,306 1fp438,306 16p435,300 0p435,308 1p433,301 3p456,308 4p43a,301 0p438,300 0p443,306
   17p474,30f 0p475,30f 49p416,306 0p436,306 dp410,306 0p430,306 0p410,308 0p430,308 2p415,306
   0p435,306 2p4d8,308 0p4d9,308 0p416,308 0p436,308 0p417,308 0p437,308 2p418,304 0p438,304
   0p418,308 0p438,308 0p41e,308 0p43e,308 2p4e8,308 0p4e9,308 0p42d,308 0p44d,308 0p423,304
   0p443,304 0p423,308 0p443,308 0p423,30b 0p443,30b 0p427,308 0p447,308 2p42b,308 0p44b,308
   128p627,653 0p627,654 0p648,654 0p627,655 0p64a,654 99p6d5,654 1p6c1,654 10p6d2,654
   255p928,93c 7p930,93c 2p933,93c 23q915,93c 0q916,93c 0q917,93c 0q91c,93c 0q921,93c 0q922,93c
   0q92b,93c 0q92f,93c 6bp9c7,9be 0p9c7,9d7 fq9a1,9bc 0q9a2,9bc 1q9af,9bc 53qa32,a3c 2qa38,a3c
   22qa16,a3c 0qa17,a3c 0qa1c,a3c 2qa2b,a3c e9pb47,b56 2pb47,b3e 0pb47,b57 fqb21,b3c 0qb22,b3c
   36pb92,bd7 35pbc6,bbe 0pbc7,bbe 0pbc6,bd7 7bpc46,c56 77pcbf,cd5 6pcc6,cd5 0pcc6,cd6 1pcc6,cc2
   0pcca,cd5 7epd46,d3e 0pd47,d3e 0pd46,d57 8dpdd9,dca 1pdd9,dcf 0pddc,dca 0pdd9,ddf 164qf42,fb7
   9qf4c,fb7 4qf51,fb7 4qf56,fb7 4qf5b,fb7 cqf40,fb5 9qf71,f72 1qf71,f74 0qfb2,f80 1qfb3,f80
   8qf71,f80 11qf92,fb7 9qf9c,fb7 4qfa1,fb7 4qfa6,fb7 4qfab,fb7 cqf90,fb5 6cp1025,102e
   adfp1b05,1b35 1p1b07,1b35 1p1b09,1b35 1p1b0b,1b35 1p1b0d,1b35 3p1b11,1b35 28p1b3a,1b35
   1p1b3c,1b35 2p1b3e,1b35 0p1b3f,1b35 1p1b42,1b35 2bcp41,325 0p61,325 0p42,307 0p62,307
   0p42,323 0p62,323 0p42,331 0p62,331 0pc7,301 0pe7,301 0p44,307 0p64,307 0p44,323 0p64,323
   0p44,331 0p64,331 0p44,327 0p64,327 0p44,32d 0p64,32d 0p112,300 0p113,300 0p112,301 0p113,301
   0p45,32d 0p65,32d 0p45,330 0p65,330 0p228,306 0p229,306 0p46,307 0p66,307 0p47,304 0p67,304
   0p48,307 0p68,307 0p48,323 0p68,323 0p48,308 0p68,308 0p48,327 0p68,327 0p48,32e 0p68,32e
   0p49,330 0p69,330 0pcf,301 0pef,301 0p4b,301 0p6b,301 0p4b,323 0p6b,323 0p4b,331 0p6b,331
   0p4c,323 0p6c,323 0p1e36,304 0p1e37,304 0p4c,331 0p6c,331 0p4c,32d 0p6c,32d 0p4d,301 0p6d,301
   0p4d,307 0p6d,307 0p4d,323 0p6d,323 0p4e,307 0p6e,307 0p4e,323 0p6e,323 0p4e,331 0p6e,331
   0p4e,32d 0p6e,32d 0pd5,301 0pf5,301 0pd5,308 0pf5,308 0p14c,300 0p14d,300 0p14c,301 0p14d,301
   0p50,301 0p70,301 0p50,307 0p70,307 0p52,307 0p72,307 0p52,323 0p72,323 0p1e5a,304 0p1e5b,304
   0p52,331 0p72,331 0p53,307 0p73,307 0p53,323 0p73,323 0p15a,307 0p15b,307 0p160,307 0p161,307
   0p1e62,307 0p1e63,307 0p54,307 0p74,307 0p54,323 0p74,323 0p54,331 0p74,331 0p54,32d 0p74,32d
   0p55,324 0p75,324 0p55,330 0p75,330 0p55,32d 0p75,32d 0p168,301 0p169,301 0p16a,308 0p16b,308
   0p56,303 0p76,303 0p56,323 0p76,323 0p57,300 0p77,300 0p57,301 0p77,301 0p57,308 0p77,308
   0p57,307 0p77,307 0p57,323 0p77,323 0p58,307 0p78,307 0p58,308 0p78,308 0p59,307 0p79,307
   0p5a,302 0p7a,302 0p5a,323 0p7a,323 0p5a,331 0p7a,331 0p68,331 0p74,308 0p77,30a 0p79,30a
   1p17f,307 4p41,323 0p61,323 0p41,309 0p61,309 0pc2,301 0pe2,301 0pc2,300 0pe2,300 0pc2,309
   0pe2,309 0pc2,303 0pe2,303 0p1ea0,302 0p1ea1,302 0p102,301 0p103,301 0p102,300 0p103,300
   0p102,309 0p103,309 0p102,303 0p103,303 0p1ea0,306 0p1ea1,306 0p45,323 0p65,323 0p45,309
   0p65,309 0p45,303 0p65,303 0pca,301 0pea,301 0pca,300 0pea,300 0pca,309 0pea,309 0pca,303
   0pea,303 0p1eb8,302 0p1eb9,302 0p49,309 0p69,309 0p49,323 0p69,323 0p4f,323 0p6f,323 0p4f,309
   0p6f,309 0pd4,301 0pf4,301 0pd4,300 0pf4,300 0pd4,309 0pf4,309 0pd4,303 0pf4,303 0p1ecc,302
   0p1ecd,302 0p1a0,301 0p1a1,301 0p1a0,300 0p1a1,300 0p1a0,309 0p1a1,309 0p1a0,303 0p1a1,303
   0p1a0,323 0p1a1,323 0p55,323 0p75,323 0p55,309 0p75,309 0p1af,301 0p1b0,301 0p1af,300
   0p1b0,300 0p1af,309 0p1b0,309 0p1af,303 0p1b0,303 0p1af,323 0p1b0,323 0p59,300 0p79,300
   0p59,323 0p79,323 0p59,309 0p79,309 0p59,303 0p79,303 6p3b1,313 0p3b1,314 0p1f00,300
   0p1f01,300 0p1f00,301 0p1f01,301 0p1f00,342 0p1f01,342 0p391,313 0p391,314 0p1f08,300
   0p1f09,300 0p1f08,301 0p1f09,301 0p1f08,342 0p1f09,342 0p3b5,313 0p3b5,314 0p1f10,300
   0p1f11,300 0p1f10,301 0p1f11,301 2p395,313 0p395,314 0p1f18,300 0p1f19,300 0p1f18,301
   0p1f19,301 2p3b7,313 0p3b7,314 0p1f20,300 0p1f21,300 0p1f20,301 0p1f21,301 0p1f20,342
   0p1f21,342 0p397,313 0p397,314 0p1f28,300 0p1f29,300 0p1f28,301 0p1f29,301 0p1f28,342
   0p1f29,342 0p3b9,313 0p3b9,314 0p1f30,300 0p1f31,300 0p1f30,301 0p1f31,301 0p1f30,342
   0p1f31,342 0p399,313 0p399,314 0p1f38,300 0p1f39,300 0p1f38,301 0p1f39,301 0p1f38,342
   0p1f39,342 0p3bf,313 0p3bf,314 0p1f40,300 0p1f41,300 0p1f40,301 0p1f41,301 2p39f,313
   0p39f,314 0p1f48,300 0p1f49,300 0p1f48,301 0p1f49,301 2p3c5,313 0p3c5,314 0p1f50,300
   0p1f51,300 0p1f50,301 0p1f51,301 0p1f50,342 0p1f51,342 1p3a5,314 1p1f59,300 1p1f59,301
   1p1f59,342 0p3c9,313 0p3c9,314 0p1f60,300 0p1f61,300 0p1f60,301 0p1f61,301 0p1f60,342
   0p1f61,342 0p3a9,313 0p3a9,314 0p1f68,300 0p1f69,300 0p1f68,301 0p1f69,301 0p1f68,342
   0p1f69,342 0p3b1,300 0q3b1,301 0p3b5,300 0q3b5,301 0p3b7,300 0q3b7,301 0p3b9,300 0q3b9,301
   0p3bf,300 0q3bf,301 0p3c5,300 0q3c5,301 0p3c9,300 0q3c9,301 2p1f00,345 0p1f01,345 0p1f02,345
   0p1f03,345 0p1f04,345 0p1f05,345 0p1f06,345 0p1f07,345 0p1f08,345 0p1f09,345 0p1f0a,345
   0p1f0b,345 0p1f0c,345 0p1f0d,345 0p1f0e,345 0p1f0f,345 0p1f20,345 0p1f21,345 0p1f22,345
   0p1f23,345 0p1f24,345 0p1f25,345 0p1f26,345 0p1f27,345 0p1f28,345 0p1f29,345 0p1f2a,345
   0p1f2b,345 0p1f2c,345 0p1f2d,345 0p1f2e,345 0p1f2f,345 0p1f60,345 0p1f61,345 0p1f62,345
   0p1f63,345 0p1f64,345 0p1f65,345 0p1f66,345 0p1f67,345 0p1f68,345 0p1f69,345 0p1f6a,345
   0p1f6b,345 0p1f6c,345 0p1f6d,345 0p1f6e,345 0p1f6f,345 0p3b1,306 0p3b1,304 0p1f70,345
   0p3b1,345 0p3ac,345 1p3b1,342 0p1fb6,345 0p391,306 0p391,304 0p391,300 0q391,301 0p391,345
   1q3b9 2pa8,342 0p1f74,345 0p3b7,345 0p3ae,345 1p3b7,342 0p1fc6,345 0p395,300 0q395,301
   0p397,300 0q397,301 0p397,345 0p1fbf,300 0p1fbf,301 0p1fbf,342 0p3b9,306 0p3b9,304 0p3ca,300
   0q3b9,308,301 2p3b9,342 0p3ca,342 0p399,306 0p399,304 0p399,300 0q399,301 1p1ffe,300
   0p1ffe,301 0p1ffe,342 0p3c5,306 0p3c5,304 0p3cb,300 0q3c5,308,301 0p3c1,313 0p3c1,314
   0p3c5,342 0p3cb,342 0p3a5,306 0p3a5,304 0p3a5,300 0q3a5,301 0p3a1,314 0pa8,300 0qa8,301 0q60
   2p1f7c,345 0p3c9,345 0p3ce,345 1p3c9,342 0p1ff6,345 0p39f,300 0q39f,301 0p3a9,300 0q3a9,301
   0p3a9,345 0qb4 2q2002 0q2003 124q3a9 3q4b 0q41,30a 6ep2190,338 0p2192,338 12p2194,338
   1ep21d0,338 0p21d4,338 0p21d2,338 34p2203,338 4p2208,338 2p220b,338 17p2223,338 1p2225,338
   1ap223c,338 2p2243,338 2p2245,338 1p2248,338 16p3d,338 1p2261,338 ap224d,338 0p3c,338
   0p3e,338 0p2264,338 0p2265,338 2p2272,338 0p2273,338 2p2276,338 0p2277,338 6p227a,338
   0p227b,338 2p2282,338 0p2283,338 2p2286,338 0p2287,338 22p22a2,338 0p22a8,338 0p22a9,338
   0p22ab,338 30p227c,338 0p227d,338 0p2291,338 0p2292,338 6p22b2,338 0p22b3,338 0p22b4,338
   0p22b5,338 3bq3008 0q3009 7b1q2add,338 56fp304b,3099 1p304d,3099 1p304f,3099 1p3051,3099
   1p3053,3099 1p3055,3099 1p3057,3099 1p3059,3099 1p305b,3099 1p305d,3099 1p305f,3099
   1p3061,3099 2p3064,3099 1p3066,3099 1p3068,3099 6p306f,3099 0p306f,309a 1p3072,3099
   0p3072,309a 1p3075,3099 0p3075,309a 1p3078,3099 0p3078,309a 1p307b,3099 0p307b,309a
   16p3046,3099 9p309d,3099 dp30ab,3099 1p30ad,3099 1p30af,3099 1p30b1,3099 1p30b3,3099
   1p30b5,3099 1p30b7,3099 1p30b9,3099 1p30bb,3099 1p30bd,3099 1p30bf,3099 1p30c1,3099
   2p30c4,3099 1p30c6,3099 1p30c8,3099 6p30cf,3099 0p30cf,309a 1p30d2,3099 0p30d2,309a
   1p30d5,3099 0p30d5,309a 1p30d8,3099 0p30d8,309a 1p30db,3099 0p30db,309a 16p30a6,3099
   2p30ef,3099 0p30f0,3099 0p30f1,3099 0p30f2,3099 3p30fd,3099 c801q8c48 0q66f4 0q8eca 0q8cc8
   0q6ed1 0q4e32 0q53e5 0q9f9c 0q9f9c 0q5951 0q91d1 0q5587 0q5948 0q61f6 0q7669 0q7f85 0q863f
   0q87ba 0q88f8 0q908f 0q6a02 0q6d1b 0q70d9 0q73de 0q843d 0q916a 0q99f1 0q4e82 0q5375 0q6b04
   0q721b 0q862d 0q9e1e 0q5d50 0q6feb 0q85cd 0q8964 0q62c9 0q81d8 0q881f 0q5eca 0q6717 0q6d6a
   0q72fc 0q90ce 0q4f86 0q51b7 0q52de 0q64c4 0q6ad3 0q7210 0q76e7 0q8001 0q8606 0q865c 0q8def
   0q9732 0q9b6f 0q9dfa 0q788c 0q797f 0q7da0 0q83c9 0q9304 0q9e7f 0q8ad6 0q58df 0q5f04 0q7c60
   0q807e 0q7262 0q78ca 0q8cc2 0q96f7 0q58d8 0q5c62 0q6a13 0q6dda 0q6f0f 0q7d2f 0q7e37 0q964b
   0q52d2 0q808b 0q51dc 0q51cc 0q7a1c 0q7dbe 0q83f1 0q9675 0q8b80 0q62cf 0q6a02 0q8afe 0q4e39
   0q5be7 0q6012 0q7387 0q7570 0q5317 0q78fb 0q4fbf 0q5fa9 0q4e0d 0q6ccc 0q6578 0q7d22 0q53c3
   0q585e 0q7701 0q8449 0q8aaa 0q6bba 0q8fb0 0q6c88 0q62fe 0q82e5 0q63a0 0q7565 0q4eae 0q5169
   0q51c9 0q6881 0q7ce7 0q826f 0q8ad2 0q91cf 0q52f5 0q5442 0q5973 0q5eec 0q65c5 0q6ffe 0q792a
   0q95ad 0q9a6a 0q9e97 0q9ece 0q529b 0q66c6 0q6b77 0q8f62 0q5e74 0q6190 0q6200 0q649a 0q6f23
   0q7149 0q7489 0q79ca 0q7df4 0q806f 0q8f26 0q84ee 0q9023 0q934a 0q5217 0q52a3 0q54bd 0q70c8
   0q88c2 0q8aaa 0q5ec9 0q5ff5 0q637b 0q6bae 0q7c3e 0q7375 0q4ee4 0q56f9 0q5be7 0q5dba 0q601c
   0q73b2 0q7469 0q7f9a 0q8046 0q9234 0q96f6 0q9748 0q9818 0q4f8b 0q79ae 0q91b4 0q96b8 0q60e1
   0q4e86 0q50da 0q5bee 0q5c3f 0q6599 0q6a02 0q71ce 0q7642 0q84fc 0q907c 0q9f8d 0q6688 0q962e
   0q5289 0q677b 0q67f3 0q6d41 0q6e9c 0q7409 0q7559 0q786b 0q7d10 0q985e 0q516d 0q622e 0q9678
   0q502b 0q5d19 0q6dea 0q8f2a 0q5f8b 0q6144 0q6817 0q7387 0q9686 0q5229 0q540f 0q5c65 0q6613
   0q674e 0q68a8 0q6ce5 0q7406 0q75e2 0q7f79 0q88cf 0q88e1 0q91cc 0q96e2 0q533f 0q6eba 0q541d
   0q71d0 0q7498 0q85fa 0q96a3 0q9c57 0q9e9f 0q6797 0q6dcb 0q81e8 0q7acb 0q7b20 0q7c92 0q72c0
   0q7099 0q8b58 0q4ec0 0q8336 0q523a 0q5207 0q5ea6 0q62d3 0q7cd6 0q5b85 0q6d1e 0q66b4 0q8f3b
   0q884c 0q964d 0q898b 0q5ed3 0q5140 0q55c0 2q585a 1q6674 2q51de 0q732a 0q76ca 0q793c 0q795e
   0q7965 0q798f 0q9756 0q7cbe 0q7fbd 1q8612 1q8af8 2q9038 0q90fd 3q98ef 0q98fc 0q9928 0q9db4
   0q90de 0q96b7 0q4fae 0q50e7 0q514d 0q52c9 0q52e4 0q5351 0q559d 0q5606 0q5668 0q5840 0q58a8
   0q5c64 0q5c6e 0q6094 0q6168 0q618e 0q61f2 0q654f 0q65e2 0q6691 0q6885 0q6d77 0q6e1a 0q6f22
   0q716e 0q722b 0q7422 0q7891 0q793e 0q7949 0q7948 0q7950 0q7956 0q795d 0q798d 0q798e 0q7a40
   0q7a81 0q7bc0 0q7df4 0q7e09 0q7e41 0q7f72 0q8005 0q81ed 0q8279 0q8279 0q8457 0q8910 0q8996
   0q8b01 0q8b39 0q8cd3 0q8d08 0q8fb6 0q9038 0q96e3 0q97ff 0q983b 0q6075 0q242ee 0q8218 2q4e26
   0q51b5 0q5168 0q4f80 0q5145 0q5180 0q52c7 0q52fa 0q559d 0q5555 0q5599 0q55e2 0q585a 0q58b3
   0q5944 0q5954 0q5a62 0q5b28 0q5ed2 0q5ed9 0q5f69 0q5fad 0q60d8 0q614e 0q6108 0q618e 0q6160
   0q61f2 0q6234 0q63c4 0q641c 0q6452 0q6556 0q6674 0q6717 0q671b 0q6756 0q6b79 0q6bba 0q6d41
   0q6edb 0q6ecb 0q6f22 0q701e 0q716e 0q77a7 0q7235 0q72af 0q732a 0q7471 0q7506 0q753b 0q761d
   0q761f 0q76ca 0q76db 0q76f4 0q774a 0q7740 0q78cc 0q7ab1 0q7bc0 0q7c7b 0q7d5b 0q7df4 0q7f3e
   0q8005 0q8352 0q83ef 0q8779 0q8941 0q8986 0q8996 0q8abf 0q8af8 0q8acb 0q8b01 0q8afe 0q8aed
   0q8b39 0q8b8a 0q8d08 0q8f38 0q9072 0q9199 0q9276 0q967c 0q96e3 0q9756 0q97db 0q97ff 0q980b
   0q983b 0q9b12 0q9f9c 0q2284a 0q22844 0q233d5 0q3b9d 0q4018 0q4039 0q25249 0q25cd0 0q27ed3
   0q9f43 0q9f8e 43q5d9,5b4 1q5f2,5b7 aq5e9,5c1 0q5e9,5c2 0q5e9,5bc,5c1 0q5e9,5bc,5c2 0q5d0,5b7
   0q5d0,5b8 0q5d0,5bc 0q5d1,5bc 0q5d2,5bc 0q5d3,5bc 0q5d4,5bc 0q5d5,5bc 0q5d6,5bc 1q5d8,5bc
   0q5d9,5bc 0q5da,5bc 0q5db,5bc 0q5dc,5bc 1q5de,5bc 1q5e0,5bc 0q5e1,5bc 1q5e3,5bc 0q5e4,5bc
   1q5e6,5bc 0q5e7,5bc 0q5e8,5bc 0q5e9,5bc 0q5ea,5bc 0q5d5,5b9 0q5d1,5bf 0q5db,5bf 0q5e4,5bf
   a7ap105d2,307 1ap105da,307 ab5p11099,110ba 1p1109b,110ba ep110a5,110ba 82p11131,11127
   0p11132,11127 21bp11347,1133e 0p11347,11357 36p11382,113c9 1p11384,113bb 8p1138b,113c2
   2p11390,113c9 33p113c2,113c2 1p113c2,113b8 0p113c2,113c9 f2p114b9,114ba 0p114b9,114b0
   1p114b9,114bd fbp115b8,115af 0p115b9,115af 37cp11935,11930 47e8p1611e,1611e 0p1611e,16129
   0p1611e,1611f 0p16129,1611f 0p1611e,16120 0p16121,1611f 0p16122,1611f 0p16121,16120
   c3fp16d67,16d67 0p16d63,16d67 0p16d69,16d67 63f3q1d157,1d165 0q1d158,1d165
   0q1d158,1d165,1d16e 0q1d158,1d165,1d16f 0q1d158,1d165,1d170 0q1d158,1d165,1d171
   0q1d158,1d165,1d172 56q1d1b9,1d165 0q1d1ba,1d165 0q1d1b9,1d165,1d16e 0q1d1ba,1d165,1d16e
   0q1d1b9,1d165,1d16f 0q1d1ba,1d165,1d16f 1263fq4e3d 0q4e38 0q4e41 0q20122 0q4f60 0q4fae 0q4fbb
   0q5002 0q507a 0q5099 0q50e7 0q50cf 0q349e 0q2063a 0q514d 0q5154 0q5164 0q5177 0q2051c 0q34b9
   0q5167 0q518d 0q2054b 0q5197 0q51a4 0q4ecc 0q51ac 0q51b5 0q291df 0q51f5 0q5203 0q34df 0q523b
   0q5246 0q5272 0q5277 0q3515 0q52c7 0q52c9 0q52e4 0q52fa 0q5305 0q5306 0q5317 0q5349 0q5351
   0q535a 0q5373 0q537d 0q537f 0q537f 0q537f 0q20a2c 0q7070 0q53ca 0q53df 0q20b63 0q53eb 0q53f1
   0q5406 0q549e 0q5438 0q5448 0q5468 0q54a2 0q54f6 0q5510 0q5553 0q5563 0q5584 0q5584 0q5599
   0q55ab 0q55b3 0q55c2 0q5716 0q5606 0q5717 0q5651 0q5674 0q5207 0q58ee 0q57ce 0q57f4 0q580d
   0q578b 0q5832 0q5831 0q58ac 0q214e4 0q58f2 0q58f7 0q5906 0q591a 0q5922 0q5962 0q216a8 0q216ea
   0q59ec 0q5a1b 0q5a27 0q59d8 0q5a66 0q36ee 0q36fc 0q5b08 0q5b3e 0q5b3e 0q219c8 0q5bc3 0q5bd8
   0q5be7 0q5bf3 0q21b18 0q5bff 0q5c06 0q5f53 0q5c22 0q3781 0q5c60 0q5c6e 0q5cc0 0q5c8d 0q21de4
   0q5d43 0q21de6 0q5d6e 0q5d6b 0q5d7c 0q5de1 0q5de2 0q382f 0q5dfd 0q5e28 0q5e3d 0q5e69 0q3862
   0q22183 0q387c 0q5eb0 0q5eb3 0q5eb6 0q5eca 0q2a392 0q5efe 0q22331 0q22331 0q8201 0q5f22
   0q5f22 0q38c7 0q232b8 0q261da 0q5f62 0q5f6b 0q38e3 0q5f9a 0q5fcd 0q5fd7 0q5ff9 0q6081 0q393a
   0q391c 0q6094 0q226d4 0q60c7 0q6148 0q614c 0q614e 0q614c 0q617a 0q618e 0q61b2 0q61a4 0q61af
   0q61de 0q61f2 0q61f6 0q6210 0q621b 0q625d 0q62b1 0q62d4 0q6350 0q22b0c 0q633d 0q62fc 0q6368
   0q6383 0q63e4 0q22bf1 0q6422 0q63c5 0q63a9 0q3a2e 0q6469 0q647e 0q649d 0q6477 0q3a6c 0q654f
   0q656c 0q2300a 0q65e3 0q66f8 0q6649 0q3b19 0q6691 0q3b08 0q3ae4 0q5192 0q5195 0q6700 0q669c
   0q80ad 0q43d9 0q6717 0q671b 0q6721 0q675e 0q6753 0q233c3 0q3b49 0q67fa 0q6785 0q6852 0q6885
   0q2346d 0q688e 0q681f 0q6914 0q3b9d 0q6942 0q69a3 0q69ea 0q6aa8 0q236a3 0q6adb 0q3c18 0q6b21
   0q238a7 0q6b54 0q3c4e 0q6b72 0q6b9f 0q6bba 0q6bbb 0q23a8d 0q21d0b 0q23afa 0q6c4e 0q23cbc
   0q6cbf 0q6ccd 0q6c67 0q6d16 0q6d3e 0q6d77 0q6d41 0q6d69 0q6d78 0q6d85 0q23d1e 0q6d34 0q6e2f
   0q6e6e 0q3d33 0q6ecb 0q6ec7 0q23ed1 0q6df9 0q6f6e 0q23f5e 0q23f8e 0q6fc6 0q7039 0q701e 0q701b
   0q3d96 0q704a 0q707d 0q7077 0q70ad 0q20525 0q7145 0q24263 0q719c 0q243ab 0q7228 0q7235 0q7250
   0q24608 0q7280 0q7295 0q24735 0q24814 0q737a 0q738b 0q3eac 0q73a5 0q3eb8 0q3eb8 0q7447 0q745c
   0q7471 0q7485 0q74ca 0q3f1b 0q7524 0q24c36 0q753e 0q24c92 0q7570 0q2219f 0q7610 0q24fa1
   0q24fb8 0q25044 0q3ffc 0q4008 0q76f4 0q250f3 0q250f2 0q25119 0q25133 0q771e 0q771f 0q771f
   0q774a 0q4039 0q778b 0q4046 0q4096 0q2541d 0q784e 0q788c 0q78cc 0q40e3 0q25626 0q7956 0q2569a
   0q256c5 0q798f 0q79eb 0q412f 0q7a40 0q7a4a 0q7a4f 0q2597c 0q25aa7 0q25aa7 0q7aee 0q4202
   0q25bab 0q7bc6 0q7bc9 0q4227 0q25c80 0q7cd2 0q42a0 0q7ce8 0q7ce3 0q7d00 0q25f86 0q7d63 0q4301
   0q7dc7 0q7e02 0q7e45 0q4334 0q26228 0q26247 0q4359 0q262d9 0q7f7a 0q2633e 0q7f95 0q7ffa
   0q8005 0q264da 0q26523 0q8060 0q265a8 0q8070 0q2335f 0q43d5 0q80b2 0q8103 0q440b 0q813e
   0q5ab5 0q267a7 0q267b5 0q23393 0q2339c 0q8201 0q8204 0q8f9e 0q446b 0q8291 0q828b 0q829d
   0q52b3 0q82b1 0q82b3 0q82bd 0q82e6 0q26b3c 0q82e5 0q831d 0q8363 0q83ad 0q8323 0q83bd 0q83e7
   0q8457 0q8353 0q83ca 0q83cc 0q83dc 0q26c36 0q26d6b 0q26cd5 0q452b 0q84f1 0q84f3 0q8516
   0q273ca 0q8564 0q26f2c 0q455d 0q4561 0q26fb1 0q270d2 0q456b 0q8650 0q865c 0q8667 0q8669
   0q86a9 0q8688 0q870e 0q86e2 0q8779 0q8728 0q876b 0q8786 0q45d7 0q87e1 0q8801 0q45f9 0q8860
   0q8863 0q27667 0q88d7 0q88de 0q4635 0q88fa 0q34bb 0q278ae 0q27966 0q46be 0q46c7 0q8aa0 0q8aed
   0q8b8a 0q8c55 0q27ca8 0q8cab 0q8cc1 0q8d1b 0q8d77 0q27f2f 0q20804 0q8dcb 0q8dbc 0q8df0
   0q208de 0q8ed4 0q8f38 0q285d2 0q285ed 0q9094 0q90f1 0q9111 0q2872e 0q911b 0q9238 0q92d7
   0q92d8 0q927c 0q93f9 0q9415 0q28bfa 0q958b 0q4995 0q95b7 0q28d77 0q49e6 0q96c3 0q5db2 0q9723
   0q29145 0q2921a 0q4a6e 0q4a76 0q97e0 0q2940a 0q4ab2 0q29496 0q980b 0q980b 0q9829 0q295b6
   0q98e2 0q4b33 0q9929 0q99a7 0q99c2 0q99fe 0q4bce 0q29b30 0q9b12 0q9c40 0q9cfd 0q4cce 0q4ced
   0q9d67 0q2a0ce 0q4cf8 0q2a105 0q2a20e 0q2a291 0q9ebb 0q4d56 0q9ef9 0q9efe 0q9f05 0q9f0f
   0q9f16 0q9f3b 0q2a600"

def firstSyllable : Nat := 0xAC00
def firstLead : Nat := 0x1100
def firstVowel : Nat := 0x1161

/-- One before the first trailing consonant, which stands for none. -/
def noTrail : Nat := 0x11A7

def leadCount : Nat := 19
def vowelCount : Nat := 21
def trailCount : Nat := 28

def syllableParts? (char : Char) : Option (List Char) :=
  let code := char.toNat
  if firstSyllable ≤ code && code < firstSyllable + leadCount * vowelCount * trailCount then
    let index := code - firstSyllable
    let trail := noTrail + index % trailCount
    let letters := [firstLead + index / (vowelCount * trailCount),
      firstVowel + index / trailCount % vowelCount]
    some ((letters ++ if trail = noTrail then [] else [trail]).map Char.ofNat)
  else none

/-- The syllable of a lead and a vowel, or of such a syllable and a trailing consonant. -/
def syllable? (first second : Char) : Option Char :=
  let left := first.toNat
  let right := second.toNat
  if firstLead ≤ left && left < firstLead + leadCount &&
      firstVowel ≤ right && right < firstVowel + vowelCount then
    let index := (left - firstLead) * vowelCount + (right - firstVowel)
    some (Char.ofNat (firstSyllable + index * trailCount))
  else if firstSyllable ≤ left && left < firstSyllable + leadCount * vowelCount * trailCount &&
      (left - firstSyllable) % trailCount = 0 &&
      noTrail < right && right < noTrail + trailCount then
    some (Char.ofNat (left + (right - noTrail)))
  else none

/-- Parts are taken apart up to this often. -/
def greatestDepth : Nat := 4

private def partsWithin (char : Char) : Nat → List Char
  | 0 => [char]
  | depth + 1 =>
    match table.find? char with
    | none => [char]
    | some ⟨_, _, 'p', [first, second]⟩ =>
      partsWithin (Char.ofNat first) depth ++ [Char.ofNat second]
    | some row => row.values.map Char.ofNat

def parts (char : Char) : List Char :=
  (syllableParts? char).getD (partsWithin char greatestDepth)

def composable : List CodeRow := table.rows.toList.filter fun row => row.tag = 'p'

def compose? (first second : Char) : Option Char :=
  match syllable? first second with
  | some syllable => some syllable
  | none =>
    (composable.find? fun row => row.values = [first.toNat, second.toNat]).map fun row =>
      Char.ofNat row.first

end HookRelay.Decomposition
