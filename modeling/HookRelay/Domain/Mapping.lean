import HookRelay.Text.Composed

/-!
What becomes of each character of a domain before it is looked up: capitals become small letters,
variant forms plain ones, characters that cannot be seen are left out, and what no domain may hold
is refused. Where a variant only differs in how it is composed, composing the text takes care of it.
-/
namespace HookRelay.Domain

inductive Mapping where
  | keep
  | become (text : List Char)
  | leaveOut
  | refuse
deriving DecidableEq, Repr

namespace Mapping

/-- Refused characters are `x` and those left out `i`. A `u` becomes the character that its number
lies after it, a `w` the one before it, and an `s` the characters given. In a `k` capitals take
turns with the small letters that they become. -/
def table : CodeTable := .read
  "41*1au20 25*20x 0s20 7s20,308 1s61 2i 1s20,304 2*2w80 0s20,301 0s3bc 2s20,327 0s31 0s6f
   1s31,2044,34 0s31,2044,32 0s33,2044,34 1*17u20 1*7u20 21*2fk 1s69,307 1s69,6a 0s69,6a 0*3k
   2*5k 1s6c,b7 0s6c,b7 0*7k 1s2bc,6e 0*2dk 1sff 0*5k 1s73 1ud2 0*3k 1uce 0u1 1*2ucd 0u1 2u4f
   0uca 0ucb 0u1 1ucd 0ucf 1ud3 0ud1 0u1 3ud3 0ud5 1ud6 0*5k 1uda 0u1 1uda 2u1 1uda 0u1 1*2ud9
   0*3k 1udb 0u1 3u1 7s64,17e 0s64,17e 0s64,17e 0s6c,6a 0s6c,6a 0s6c,6a 0s6e,6a 0s6e,6a 0s6e,6a
   0*fk 2*11k 2s64,7a 0s64,7a 0s64,7a 0u1 1w61 0w38 0*27k 1w82 1*11k 7s2c65 0u1 1wa3 0s2c66 2u1
   1wc3 0u45 0u47 0*9k 61s68 0w4b 0s6a 0s72 0w3b 0w3a 0w35 0s77 0s79 1fs20,306 0s20,307 0s20,30a
   0s20,328 0s20,303 0s20,30b 2w7d 0s6c 0s73 0s78 0w4f 60u74 9i 20*3k 3u1 1*2x 0s20,3b9 4u74
   0*4x 0s20,301 0s20,308,301 0u26 1*3u25 0x 0u40 0x 0*2u3f 1*11u20 0x 0*9u20 23u8 0w1e 0w19 0wd
   0w6 0w9 0wf 0w16 1*17k 1w36 0w30 0w2f 1w3c 0w40 1u1 1w36 0u1 2*3w82 0*10u50 0*20u20 30*21k
   9*35k 1uf 0*dk 2*5fk 1x 0*26u30 0*2x 2es565,582 3*2x 3x 37*8x 1b*4x 6*11x 16x 58s627,674
   0s648,674 0s6c7,674 0s64a,674 64x 30*2x 3b*2x 65*ex 3b*2x 31*2x fx 1c*2x 1x b*5x 20*7x 4bx
   a1x 8*2x 2*2x 16x 7x 1*3x 4*2x 9*2x 2*2x 4*8x 1*4x 2x 5*2x 19*2x 3x 6*4x 2*2x 16x 7x 2x 2x
   2*2x 1x 5*4x 2*2x 3*3x 1*7x 4x 1*7x 11*ax 3x 9x 3x 16x 7x 2x 5*2x ax 3x 3*2x 1*fx 4*2x c*7x
   7x 3x 8*2x 2*2x 16x 7x 2x 5*2x 9*2x 2*2x 3*7x 3*4x 2x 5*2x 12*ax 2x 6*3x 3x 4*3x 2x 1x 2*3x
   2*3x 3*3x c*4x 5*3x 3x 4*2x 1*6x 1*ex 15*5x dx 3x 17x 10*2x 9x 3x 4*7x 2x 3x 2*2x 4*2x a*7x
   16x 3x 17x ax 5*2x 9x 3x 4*7x 2*5x 3x 4*2x ax 3*cx dx 3x 33x 3x 6*4x 10*2x 1ax 3x 12*3x 18x
   9x 1*2x 7*3x 1*4x 6x 1x 8*6x a*2x 3*cx 32se4d,e32 7*4x 1d*25x 2x 1x 5x 18x 1x csecd,eb2 a*2x
   5x 1x 7x a*2x 0seab,e99 0seab,ea1 2*20x cw1 3bx 24*4x 6sfb2,f71,f80 1sfb3,f71,f80 1ex 24x fx
   d*25x a0*26u1c60 0x 0s2d27 0*5x 0s2d2d 0*2x 2cw20 62*2i e8x 4*2x 7x 1x 4*2x 29x 4*2x 21x 4*2x
   7x 1x 4*2x fx 39x 4*2x 43*2x 20*3x 1a*6x 56*2x 0*6w8 0*2x 280x 1c*3x 59*7x 16*9x 18*9x 14*cx
   dx 3x 2*cx 34*2i 28*2x a*6x a*6x b*5i a*6x 59*7x 2b*5x 46*ax 1fx c*4x c*4x 1*3x 2a*2x 5*bx
   2c*4x 1a*6x b*3x 3e*2x 41x 1d*2x b*6x a*6x e*2x 2e*2x c*14x 4dx a6*8x 3c*3x f*3x 33s432 0s434
   0s43e 0*2w1842 0s442 0s44a 0s463 0sa64b 0u1 1*5x 0*2bwbc0 0*2x 0*3wbc0 8*8x 2b*5x 2cs61 0se6
   0s62 1*2w1ccc 0s1dd 0*8w1ccc 1s6f 0s223 0s70 0s72 0*2w1ccc 0s77 0s61 0*2w1af4 0w44 0s62
   0*2w1ce4 0s259 0*2w1af0 0s67 1s6b 0s6d 0s14b 0s6f 0s254 0*2w3e 0s70 0*2w1ce3 0w3c 0s26f 0s76
   0w37 0*3w19ab 0*2w199a 0s69 0s72 0*2w1cef 0*2w19b4 0s3c1 0*2w19a3 ds43d 22s252 0s63 0s255
   0sf0 0s25c 0s66 0s25f 0s261 0s265 0*3w1b3c 0w2c 0s29d 0s26d 0w25 0s29f 0s271 0s270 0*4w1b3c
   0s278 0*2w1b31 0s1ab 0*2w1b2d 0w9c 0*2w1b2e 0s7a 0*3w1b2c 0s3b8 40*95k 5s61,2be 0w3a 2sdf
   1*5fk 9*8w8 6*2x 0*6w8 0*2x 8*8w8 8*8w8 6*2x 0*6w8 0*2x 8x 0w8 0x 0w8 0x 0w8 0x 0w8 8*8w8
   e*2x 0s1f00,3b9 0s1f01,3b9 0s1f02,3b9 0s1f03,3b9 0s1f04,3b9 0s1f05,3b9 0s1f06,3b9 0s1f07,3b9
   0s1f00,3b9 0s1f01,3b9 0s1f02,3b9 0s1f03,3b9 0s1f04,3b9 0s1f05,3b9 0s1f06,3b9 0s1f07,3b9
   0s1f20,3b9 0s1f21,3b9 0s1f22,3b9 0s1f23,3b9 0s1f24,3b9 0s1f25,3b9 0s1f26,3b9 0s1f27,3b9
   0s1f20,3b9 0s1f21,3b9 0s1f22,3b9 0s1f23,3b9 0s1f24,3b9 0s1f25,3b9 0s1f26,3b9 0s1f27,3b9
   0s1f60,3b9 0s1f61,3b9 0s1f62,3b9 0s1f63,3b9 0s1f64,3b9 0s1f65,3b9 0s1f66,3b9 0s1f67,3b9
   0s1f60,3b9 0s1f61,3b9 0s1f62,3b9 0s1f63,3b9 0s1f64,3b9 0s1f65,3b9 0s1f66,3b9 0s1f67,3b9
   2s1f70,3b9 0s3b1,3b9 0s3ac,3b9 0x 1s1fb6,3b9 0*2w8 0w4a 0s3ac 0s3b1,3b9 0s20,313 1s20,313
   0s20,342 0s20,308,342 0s1f74,3b9 0s3b7,3b9 0s3ae,3b9 0x 1s1fc6,3b9 0w56 0s3ad 0w56 0s3ae
   0s3b7,3b9 0s20,313,300 0s20,313,301 0s20,313,342 4*2x 2*2w8 0w64 0s3af 0x 0s20,314,300
   0s20,314,301 0s20,314,342 8*2w8 0w70 0s3cd 0w7 0s20,308,300 0s20,308,301 1*2x 0s1f7c,3b9
   0s3c9,3b9 0s3ce,3b9 0x 1s1ff6,3b9 0w80 0s3cc 0w7e 0s3ce 0s3c9,3b9 0s20,301 0s20,314 0x 0s20
   0s20 0s20 0s20 0s20 0s20 0s20 0s20 0s20 0s20 0s20 0i 2*2x 1w1 5s20,333 c*3x 1*7x 0s20
   3s2032,2032 0s2032,2032,2032 1s2035,2035 0s2035,2035,2035 4s21,21 1s20,305 8s3f,3f 0s3f,21
   0s21,3f ds2032,2032,2032,2032 7s20 0*5i 0*5x 0*6i 0s30 0s69 0*2x 0*6w2040 0s2b 0u197 0s3d
   0*2w2055 0s6e 0*aw2050 0s2b 0u187 0s3d 0*2w2065 0x 0s61 0s65 0s6f 0s78 0s259 0s68 0*4w202b
   0s70 0*2w2028 0*3x 8s72,73 19*ex 21*fx 0s61,2f,63 0s61,2f,73 0s63 0sb0,63 1s63,2f,6f
   0s63,2f,75 0s25b 1sb0,66 0*2w20a3 0s68 0s68 0s68 0s127 0s69 0s69 0s6c 0s6c 1s6e 0s6e,6f
   2*3w20a9 0s72 0s72 2s73,6d 0s74,65,6c 0s74,6d 1s7a 1s3c9 1s7a 1s6b 0se5 0*2w20ca 1s65
   0*2w20cb 0u1c 0s6d 0s6f 0*4w1b65 0s69 1s66,61,78 0s3c0 0s3b3 0s3b3 0s3c0 0ud1 4s64 0*2w20e2
   0*2w20df 6s31,2044,37 0s31,2044,39 0s31,2044,31,30 0s31,2044,33 0s32,2044,33 0s31,2044,35
   0s32,2044,35 0s33,2044,35 0s34,2044,35 0s31,2044,36 0s35,2044,36 0s31,2044,38 0s33,2044,38
   0s35,2044,38 0s37,2044,38 0s31,2044 0s69 0s69,69 0s69,69,69 0s69,76 0s76 0s76,69 0s76,69,69
   0s76,69,69,69 0s69,78 0s78 0s78,69 0s78,69,69 0s6c 0*2w210a 0s6d 0s69 0s69,69 0s69,69,69
   0s69,76 0s76 0s76,69 0s76,69,69 0s76,69,69,69 0s69,78 0s78 0s78,69 0s78,69,69 0s6c 0*2w211a
   0s6d 3u1 5s30,2044,33 2*4x 9cs222b,222b 0s222b,222b,222b 1s222e,222e 0s222e,222e,222e 1f9*16x
   b*15x 0*9w242f 0s31,30 0s31,31 0s31,32 0s31,33 0s31,34 0s31,35 0s31,36 0s31,37 0s31,38
   0s31,39 0s32,30 0s28,31,29 0s28,32,29 0s28,33,29 0s28,34,29 0s28,35,29 0s28,36,29 0s28,37,29
   0s28,38,29 0s28,39,29 0s28,31,30,29 0s28,31,31,29 0s28,31,32,29 0s28,31,33,29 0s28,31,34,29
   0s28,31,35,29 0s28,31,36,29 0s28,31,37,29 0s28,31,38,29 0s28,31,39,29 0s28,32,30,29 0*14x
   0s28,61,29 0s28,62,29 0s28,63,29 0s28,64,29 0s28,65,29 0s28,66,29 0s28,67,29 0s28,68,29
   0s28,69,29 0s28,6a,29 0s28,6b,29 0s28,6c,29 0s28,6d,29 0s28,6e,29 0s28,6f,29 0s28,70,29
   0s28,71,29 0s28,72,29 0s28,73,29 0s28,74,29 0s28,75,29 0s28,76,29 0s28,77,29 0s28,78,29
   0s28,79,29 0s28,7a,29 0*1aw2455 0*1aw246f 0s30 521s222b,222b,222b,222b 67s3a,3a,3d 0s3d,3d
   0s3d,3d,3d fd*2x 8a*30u30 30u1 1s26b 0wee6 0s27d 2*5k 1s251 0s271 0s250 0s252 1u1 2u1 6s6a
   0s76 0*2w2a3f 0*63k 8*3k 4u1 1*5x 2dx 1*5x 1*2x 38*7x 0we 1*ex 18*9x 7x 7x 7x 7x 7x 7x 7x 7x
   7e*22x 1ax 4s6bcd 53s9f9f 0*cx 0s4e00 0s4e28 0s4e36 0s4e3f 0s4e59 0s4e85 0s4e8c 0s4ea0 0s4eba
   0s513f 0s5165 0s516b 0s5182 0s5196 0s51ab 0s51e0 0s51f5 0s5200 0s529b 0s52f9 0s5315 0s531a
   0s5338 0s5341 0s535c 0s5369 0s5382 0s53b6 0s53c8 0s53e3 0s56d7 0s571f 0s58eb 0s5902 0s590a
   0s5915 0s5927 0s5973 0s5b50 0s5b80 0s5bf8 0s5c0f 0s5c22 0s5c38 0s5c6e 0s5c71 0s5ddb 0s5de5
   0s5df1 0s5dfe 0s5e72 0s5e7a 0s5e7f 0s5ef4 0s5efe 0s5f0b 0s5f13 0s5f50 0s5f61 0s5f73 0s5fc3
   0s6208 0s6236 0s624b 0s652f 0s6534 0s6587 0s6597 0s65a4 0s65b9 0s65e0 0s65e5 0s66f0 0s6708
   0s6728 0s6b20 0s6b62 0s6b79 0s6bb3 0s6bcb 0s6bd4 0s6bdb 0s6c0f 0s6c14 0s6c34 0s706b 0s722a
   0s7236 0s723b 0s723f 0s7247 0s7259 0s725b 0s72ac 0s7384 0s7389 0s74dc 0s74e6 0s7518 0s751f
   0s7528 0s7530 0s758b 0s7592 0s7676 0s767d 0s76ae 0s76bf 0s76ee 0s77db 0s77e2 0s77f3 0s793a
   0s79b8 0s79be 0s7a74 0s7acb 0s7af9 0s7c73 0s7cf8 0s7f36 0s7f51 0s7f8a 0s7fbd 0s8001 0s800c
   0s8012 0s8033 0s807f 0s8089 0s81e3 0s81ea 0s81f3 0s81fc 0s820c 0s821b 0s821f 0s826e 0s8272
   0s8278 0s864d 0s866b 0s8840 0s884c 0s8863 0s897e 0s898b 0s89d2 0s8a00 0s8c37 0s8c46 0s8c55
   0s8c78 0s8c9d 0s8d64 0s8d70 0s8db3 0s8eab 0s8eca 0s8f9b 0s8fb0 0s8fb5 0s9091 0s9149 0s91c6
   0s91cc 0s91d1 0s9577 0s9580 0s961c 0s96b6 0s96b9 0s96e8 0s9751 0s975e 0s9762 0s9769 0s97cb
   0s97ed 0s97f3 0s9801 0s98a8 0s98db 0s98df 0s9996 0s9999 0s99ac 0s9aa8 0s9ad8 0s9adf 0s9b25
   0s9b2f 0s9b32 0s9b3c 0s9b5a 0s9ce5 0s9e75 0s9e7f 0s9ea5 0s9ebb 0s9ec3 0s9ecd 0s9ed1 0s9ef9
   0s9efd 0s9f0e 0s9f13 0s9f20 0s9f3b 0s9f4a 0s9f52 0s9f8d 0s9f9c 0s9fa0 0*2ax 0s20 1s2e 33w24
   1s5341 0*2u230b 5x 56*2x 2s20,3099 0s20,309a 2s3088,308a 5fs30b3,30c8 0*5x 2bx 0*2w2031
   0s11aa 0s1102 0*2w1f89 0*3w2034 0*6w1f8a 0s111a 0*3w203b 0s1121 0*aw203c 0*15w1fee 0i
   0*2w2051 0*2w1fa0 0s11cc 0s11ce 0s11d3 0s11d7 0s11d9 0s111c 0s11dd 0s11df 0*2w2054 0s1120
   0*2w2052 0s1127 0s1129 0*5w204d 0s1132 0s1136 0s1140 0s1147 0s114c 0*2w1f91 0*3w202d 0*2w2003
   0s1188 0*2w1ff9 0s1194 0s119e 0s11a1 0x 2s4e00 0s4e8c 0s4e09 0s56db 0s4e0a 0s4e2d 0s4e0b
   0s7532 0s4e59 0s4e19 0s4e01 0s5929 0s5730 0s4eba 46*ax 10s28,1100,29 0s28,1102,29
   0s28,1103,29 0s28,1105,29 0s28,1106,29 0s28,1107,29 0s28,1109,29 0s28,110b,29 0s28,110c,29
   0s28,110e,29 0s28,110f,29 0s28,1110,29 0s28,1111,29 0s28,1112,29 0s28,ac00,29 0s28,b098,29
   0s28,b2e4,29 0s28,b77c,29 0s28,b9c8,29 0s28,bc14,29 0s28,c0ac,29 0s28,c544,29 0s28,c790,29
   0s28,cc28,29 0s28,ce74,29 0s28,d0c0,29 0s28,d30c,29 0s28,d558,29 0s28,c8fc,29
   0s28,c624,c804,29 0s28,c624,d6c4,29 0x 0s28,4e00,29 0s28,4e8c,29 0s28,4e09,29 0s28,56db,29
   0s28,4e94,29 0s28,516d,29 0s28,4e03,29 0s28,516b,29 0s28,4e5d,29 0s28,5341,29 0s28,6708,29
   0s28,706b,29 0s28,6c34,29 0s28,6728,29 0s28,91d1,29 0s28,571f,29 0s28,65e5,29 0s28,682a,29
   0s28,6709,29 0s28,793e,29 0s28,540d,29 0s28,7279,29 0s28,8ca1,29 0s28,795d,29 0s28,52b4,29
   0s28,4ee3,29 0s28,547c,29 0s28,5b66,29 0s28,76e3,29 0s28,4f01,29 0s28,8cc7,29 0s28,5354,29
   0s28,796d,29 0s28,4f11,29 0s28,81ea,29 0s28,81f3,29 0s554f 0s5e7c 0s6587 0s7b8f 8s70,74,65
   0s32,31 0s32,32 0s32,33 0s32,34 0s32,35 0s32,36 0s32,37 0s32,38 0s32,39 0s33,30 0s33,31
   0s33,32 0s33,33 0s33,34 0s33,35 0s1100 0*2w215f 0*3w215e 0s1109 0*2w215c 0*5w215b 0sac00
   0sb098 0sb2e4 0sb77c 0sb9c8 0sbc14 0sc0ac 0sc544 0sc790 0scc28 0sce74 0sd0c0 0sd30c 0sd558
   0scc38,ace0 0sc8fc,c758 0sc6b0 1s4e00 0s4e8c 0s4e09 0s56db 0s4e94 0s516d 0s4e03 0s516b 0s4e5d
   0s5341 0s6708 0s706b 0s6c34 0s6728 0s91d1 0s571f 0s65e5 0s682a 0s6709 0s793e 0s540d 0s7279
   0s8ca1 0s795d 0s52b4 0s79d8 0s7537 0s5973 0s9069 0s512a 0s5370 0s6ce8 0s9805 0s4f11 0s5199
   0s6b63 0s4e0a 0s4e2d 0s4e0b 0s5de6 0s53f3 0s533b 0s5b97 0s5b66 0s76e3 0s4f01 0s8cc7 0s5354
   0s591c 0s33,36 0s33,37 0s33,38 0s33,39 0s34,30 0s34,31 0s34,32 0s34,33 0s34,34 0s34,35
   0s34,36 0s34,37 0s34,38 0s34,39 0s35,30 0s31,6708 0s32,6708 0s33,6708 0s34,6708 0s35,6708
   0s36,6708 0s37,6708 0s38,6708 0s39,6708 0s31,30,6708 0s31,31,6708 0s31,32,6708 0s68,67
   0s65,72,67 0s65,76 0s6c,74,64 0w22e 0w22d 0w22c 0w22b 0*2w22a 0w229 0w228 0w227 0w226 0w225
   0w224 0w223 0w222 0w221 0w220 0w21f 0w21d 0w21c 0w21b 0*6w21a 0w218 0w216 0w214 0w212 0*5w210
   0w20f 0w20e 0*6w20d 0*4w20c 0s4ee4,548c 0s30a2,30d1,30fc,30c8 0s30a2,30eb,30d5,30a1
   0s30a2,30f3,30da,30a2 0s30a2,30fc,30eb 0s30a4,30cb,30f3,30b0 0s30a4,30f3,30c1
   0s30a6,30a9,30f3 0s30a8,30b9,30af,30fc,30c9 0s30a8,30fc,30ab,30fc 0s30aa,30f3,30b9
   0s30aa,30fc,30e0 0s30ab,30a4,30ea 0s30ab,30e9,30c3,30c8 0s30ab,30ed,30ea,30fc
   0s30ac,30ed,30f3 0s30ac,30f3,30de 0s30ae,30ac 0s30ae,30cb,30fc 0s30ad,30e5,30ea,30fc
   0s30ae,30eb,30c0,30fc 0s30ad,30ed 0s30ad,30ed,30b0,30e9,30e0 0s30ad,30ed,30e1,30fc,30c8,30eb
   0s30ad,30ed,30ef,30c3,30c8 0s30b0,30e9,30e0 0s30b0,30e9,30e0,30c8,30f3
   0s30af,30eb,30bc,30a4,30ed 0s30af,30ed,30fc,30cd 0s30b1,30fc,30b9 0s30b3,30eb,30ca
   0s30b3,30fc,30dd 0s30b5,30a4,30af,30eb 0s30b5,30f3,30c1,30fc,30e0 0s30b7,30ea,30f3,30b0
   0s30bb,30f3,30c1 0s30bb,30f3,30c8 0s30c0,30fc,30b9 0s30c7,30b7 0s30c9,30eb 0s30c8,30f3
   0s30ca,30ce 0s30ce,30c3,30c8 0s30cf,30a4,30c4 0s30d1,30fc,30bb,30f3,30c8 0s30d1,30fc,30c4
   0s30d0,30fc,30ec,30eb 0s30d4,30a2,30b9,30c8,30eb 0s30d4,30af,30eb 0s30d4,30b3 0s30d3,30eb
   0s30d5,30a1,30e9,30c3,30c9 0s30d5,30a3,30fc,30c8 0s30d6,30c3,30b7,30a7,30eb 0s30d5,30e9,30f3
   0s30d8,30af,30bf,30fc,30eb 0s30da,30bd 0s30da,30cb,30d2 0s30d8,30eb,30c4 0s30da,30f3,30b9
   0s30da,30fc,30b8 0s30d9,30fc,30bf 0s30dd,30a4,30f3,30c8 0s30dc,30eb,30c8 0s30db,30f3
   0s30dd,30f3,30c9 0s30db,30fc,30eb 0s30db,30fc,30f3 0s30de,30a4,30af,30ed 0s30de,30a4,30eb
   0s30de,30c3,30cf 0s30de,30eb,30af 0s30de,30f3,30b7,30e7,30f3 0s30df,30af,30ed,30f3
   0s30df,30ea 0s30df,30ea,30d0,30fc,30eb 0s30e1,30ac 0s30e1,30ac,30c8,30f3
   0s30e1,30fc,30c8,30eb 0s30e4,30fc,30c9 0s30e4,30fc,30eb 0s30e6,30a2,30f3
   0s30ea,30c3,30c8,30eb 0s30ea,30e9 0s30eb,30d4,30fc 0s30eb,30fc,30d6,30eb 0s30ec,30e0
   0s30ec,30f3,30c8,30b2,30f3 0s30ef,30c3,30c8 0s30,70b9 0s31,70b9 0s32,70b9 0s33,70b9 0s34,70b9
   0s35,70b9 0s36,70b9 0s37,70b9 0s38,70b9 0s39,70b9 0s31,30,70b9 0s31,31,70b9 0s31,32,70b9
   0s31,33,70b9 0s31,34,70b9 0s31,35,70b9 0s31,36,70b9 0s31,37,70b9 0s31,38,70b9 0s31,39,70b9
   0s32,30,70b9 0s32,31,70b9 0s32,32,70b9 0s32,33,70b9 0s32,34,70b9 0s68,70,61 0s64,61 0s61,75
   0s62,61,72 0s6f,76 0s70,63 0s64,6d 0s64,6d,32 0s64,6d,33 0s69,75 0s5e73,6210 0s662d,548c
   0s5927,6b63 0s660e,6cbb 0s682a,5f0f,4f1a,793e 0s70,61 0s6e,61 0s3bc,61 0s6d,61 0s6b,61
   0s6b,62 0s6d,62 0s67,62 0s63,61,6c 0s6b,63,61,6c 0s70,66 0s6e,66 0s3bc,66 0s3bc,67 0s6d,67
   0s6b,67 0s68,7a 0s6b,68,7a 0s6d,68,7a 0s67,68,7a 0s74,68,7a 0s3bc,6c 0s6d,6c 0s64,6c 0s6b,6c
   0s66,6d 0s6e,6d 0s3bc,6d 0s6d,6d 0s63,6d 0s6b,6d 0s6d,6d,32 0s63,6d,32 0s6d,32 0s6b,6d,32
   0s6d,6d,33 0s63,6d,33 0s6d,33 0s6b,6d,33 0s6d,2215,73 0s6d,2215,73,32 0s70,61 0s6b,70,61
   0s6d,70,61 0s67,70,61 0s72,61,64 0s72,61,64,2215,73 0s72,61,64,2215,73,32 0s70,73 0s6e,73
   0s3bc,73 0s6d,73 0s70,76 0s6e,76 0s3bc,76 0s6d,76 0s6b,76 0s6d,76 0s70,77 0s6e,77 0s3bc,77
   0s6d,77 0s6b,77 0s6d,77 0s6b,3c9 0s6d,3c9 0x 0s62,71 0s63,63 0s63,64 0s63,2215,6b,67 0x
   0s64,62 0s67,79 0s68,61 0s68,70 0s69,6e 0s6b,6b 0s6b,6d 0s6b,74 0s6c,6d 0s6c,6e 0s6c,6f,67
   0s6c,78 0s6d,62 0s6d,69,6c 0s6d,6f,6c 0s70,68 0x 0s70,70,6d 0s70,72 0s73,72 0s73,76 0s77,62
   0s76,2215,6d 0s61,2215,6d 0s31,65e5 0s32,65e5 0s33,65e5 0s34,65e5 0s35,65e5 0s36,65e5
   0s37,65e5 0s38,65e5 0s39,65e5 0s31,30,65e5 0s31,31,65e5 0s31,32,65e5 0s31,33,65e5
   0s31,34,65e5 0s31,35,65e5 0s31,36,65e5 0s31,37,65e5 0s31,38,65e5 0s31,39,65e5 0s32,30,65e5
   0s32,31,65e5 0s32,32,65e5 0s32,33,65e5 0s32,34,65e5 0s32,35,65e5 0s32,36,65e5 0s32,37,65e5
   0s32,38,65e5 0s32,39,65e5 0s33,30,65e5 0s33,31,65e5 0s67,61,6c 708d*3x 37*9x 15c*14x 0*2dk
   13*1bk 1s44a 0s44c 5a*8x 22*dk 3*3dk 1w1 8*3k 1s1d79 0*9k 4u1 1s265 2*3k 3*13k 1s266 0s25c
   0s261 0s26c 0s26a 1s29e 0s287 0s29d 0u3a0 0*fk 1w30 0s282 0s1d8e 0*3k 1s264 0*fk 1s19b 0*14x
   0s73 0s63 0s66 0s71 0u1 2s127 0s153 33*3x a*6x 38*8x 46*8x c*6x 74*bx 1e*3x 4ex b*4x 21x
   37*9x e*2x a*2x 67*18x 1c*ax 6*2x 6*2x 6*9x 7x 7x 2cw435 0w26 0s26b 0wd 9s28d 2*4x 0*50w97d0
   2e*2x a*6x 2ba4*cx 17*4x 31*2104x 16e*2x 6a*26x 0s66,66 0s66,69 0s66,6c 0s66,66,69 0s66,66,6c
   0s73,74 0s73,74 0*cx 0s574,576 0s574,565 0s574,56b 0s57e,576 0s574,56d 0*5x 3s5e2 0s5d0
   0*2wf54f 0*3wf549 0s5e8 0s5ea 0s2b dx 5x 1x 2x 2x 9s5d0,5dc 0s671 0s671 0s67b 0s67b 0s67b
   0s67b 0s67e 0s67e 0s67e 0s67e 0s680 0s680 0s680 0s680 0s67a 0s67a 0s67a 0s67a 0s67f 0s67f
   0s67f 0s67f 0s679 0s679 0s679 0s679 0s6a4 0s6a4 0s6a4 0s6a4 0s6a6 0s6a6 0s6a6 0s6a6 0s684
   0s684 0s684 0s684 0s683 0s683 0s683 0s683 0s686 0s686 0s686 0*2wf4f7 0s687 0s687 0s687 0s68d
   0s68d 0s68c 0s68c 0s68e 0s68e 0s688 0s688 0s698 0s698 0s691 0s691 0s6a9 0s6a9 0s6a9 0s6a9
   0s6af 0s6af 0s6af 0s6af 0s6b3 0s6b3 0s6b3 0s6b3 0s6b1 0s6b1 0s6b1 0s6b1 0s6ba 0*2wf4e5 0s6bb
   0s6bb 0s6bb 0s6c0 0*2wf4e5 0s6c1 0s6c1 0s6c1 0s6be 0s6be 0s6be 0s6be 0s6d2 0*2wf4dd 0s6d3
   21s6ad 0s6ad 0s6ad 0s6ad 0s6c7 0s6c7 0s6c6 0s6c6 0s6c8 0s6c8 0s6c7,674 0s6cb 0s6cb 0s6c5
   0s6c5 0s6c9 0s6c9 0s6d0 0s6d0 0s6d0 0s6d0 0s649 0s649 0s626,627 0s626,627 0s626,6d5 0s626,6d5
   0s626,648 0s626,648 0s626,6c7 0s626,6c7 0s626,6c6 0s626,6c6 0s626,6c8 0s626,6c8 0s626,6d0
   0s626,6d0 0s626,6d0 0s626,649 0s626,649 0s626,649 0s6cc 0s6cc 0s6cc 0s6cc 0s626,62c 0s626,62d
   0s626,645 0s626,649 0s626,64a 0s628,62c 0s628,62d 0s628,62e 0s628,645 0s628,649 0s628,64a
   0s62a,62c 0s62a,62d 0s62a,62e 0s62a,645 0s62a,649 0s62a,64a 0s62b,62c 0s62b,645 0s62b,649
   0s62b,64a 0s62c,62d 0s62c,645 0s62d,62c 0s62d,645 0s62e,62c 0s62e,62d 0s62e,645 0s633,62c
   0s633,62d 0s633,62e 0s633,645 0s635,62d 0s635,645 0s636,62c 0s636,62d 0s636,62e 0s636,645
   0s637,62d 0s637,645 0s638,645 0s639,62c 0s639,645 0s63a,62c 0s63a,645 0s641,62c 0s641,62d
   0s641,62e 0s641,645 0s641,649 0s641,64a 0s642,62d 0s642,645 0s642,649 0s642,64a 0s643,627
   0s643,62c 0s643,62d 0s643,62e 0s643,644 0s643,645 0s643,649 0s643,64a 0s644,62c 0s644,62d
   0s644,62e 0s644,645 0s644,649 0s644,64a 0s645,62c 0s645,62d 0s645,62e 0s645,645 0s645,649
   0s645,64a 0s646,62c 0s646,62d 0s646,62e 0s646,645 0s646,649 0s646,64a 0s647,62c 0s647,645
   0s647,649 0s647,64a 0s64a,62c 0s64a,62d 0s64a,62e 0s64a,645 0s64a,649 0s64a,64a 0s630,670
   0s631,670 0s649,670 0s20,64c,651 0s20,64d,651 0s20,64e,651 0s20,64f,651 0s20,650,651
   0s20,651,670 0s626,631 0s626,632 0s626,645 0s626,646 0s626,649 0s626,64a 0s628,631 0s628,632
   0s628,645 0s628,646 0s628,649 0s628,64a 0s62a,631 0s62a,632 0s62a,645 0s62a,646 0s62a,649
   0s62a,64a 0s62b,631 0s62b,632 0s62b,645 0s62b,646 0s62b,649 0s62b,64a 0s641,649 0s641,64a
   0s642,649 0s642,64a 0s643,627 0s643,644 0s643,645 0s643,649 0s643,64a 0s644,645 0s644,649
   0s644,64a 0s645,627 0s645,645 0s646,631 0s646,632 0s646,645 0s646,646 0s646,649 0s646,64a
   0s649,670 0s64a,631 0s64a,632 0s64a,645 0s64a,646 0s64a,649 0s64a,64a 0s626,62c 0s626,62d
   0s626,62e 0s626,645 0s626,647 0s628,62c 0s628,62d 0s628,62e 0s628,645 0s628,647 0s62a,62c
   0s62a,62d 0s62a,62e 0s62a,645 0s62a,647 0s62b,645 0s62c,62d 0s62c,645 0s62d,62c 0s62d,645
   0s62e,62c 0s62e,645 0s633,62c 0s633,62d 0s633,62e 0s633,645 0s635,62d 0s635,62e 0s635,645
   0s636,62c 0s636,62d 0s636,62e 0s636,645 0s637,62d 0s638,645 0s639,62c 0s639,645 0s63a,62c
   0s63a,645 0s641,62c 0s641,62d 0s641,62e 0s641,645 0s642,62d 0s642,645 0s643,62c 0s643,62d
   0s643,62e 0s643,644 0s643,645 0s644,62c 0s644,62d 0s644,62e 0s644,645 0s644,647 0s645,62c
   0s645,62d 0s645,62e 0s645,645 0s646,62c 0s646,62d 0s646,62e 0s646,645 0s646,647 0s647,62c
   0s647,645 0s647,670 0s64a,62c 0s64a,62d 0s64a,62e 0s64a,645 0s64a,647 0s626,645 0s626,647
   0s628,645 0s628,647 0s62a,645 0s62a,647 0s62b,645 0s62b,647 0s633,645 0s633,647 0s634,645
   0s634,647 0s643,644 0s643,645 0s644,645 0s646,645 0s646,647 0s64a,645 0s64a,647 0s640,64e,651
   0s640,64f,651 0s640,650,651 0s637,649 0s637,64a 0s639,649 0s639,64a 0s63a,649 0s63a,64a
   0s633,649 0s633,64a 0s634,649 0s634,64a 0s62d,649 0s62d,64a 0s62c,649 0s62c,64a 0s62e,649
   0s62e,64a 0s635,649 0s635,64a 0s636,649 0s636,64a 0s634,62c 0s634,62d 0s634,62e 0s634,645
   0s634,631 0s633,631 0s635,631 0s636,631 0s637,649 0s637,64a 0s639,649 0s639,64a 0s63a,649
   0s63a,64a 0s633,649 0s633,64a 0s634,649 0s634,64a 0s62d,649 0s62d,64a 0s62c,649 0s62c,64a
   0s62e,649 0s62e,64a 0s635,649 0s635,64a 0s636,649 0s636,64a 0s634,62c 0s634,62d 0s634,62e
   0s634,645 0s634,631 0s633,631 0s635,631 0s636,631 0s634,62c 0s634,62d 0s634,62e 0s634,645
   0s633,647 0s634,647 0s637,645 0s633,62c 0s633,62d 0s633,62e 0s634,62c 0s634,62d 0s634,62e
   0s637,645 0s638,645 0s627,64b 0s627,64b 12s62a,62c,645 0s62a,62d,62c 0s62a,62d,62c
   0s62a,62d,645 0s62a,62e,645 0s62a,645,62c 0s62a,645,62d 0s62a,645,62e 0s62c,645,62d
   0s62c,645,62d 0s62d,645,64a 0s62d,645,649 0s633,62d,62c 0s633,62c,62d 0s633,62c,649
   0s633,645,62d 0s633,645,62d 0s633,645,62c 0s633,645,645 0s633,645,645 0s635,62d,62d
   0s635,62d,62d 0s635,645,645 0s634,62d,645 0s634,62d,645 0s634,62c,64a 0s634,645,62e
   0s634,645,62e 0s634,645,645 0s634,645,645 0s636,62d,649 0s636,62e,645 0s636,62e,645
   0s637,645,62d 0s637,645,62d 0s637,645,645 0s637,645,64a 0s639,62c,645 0s639,645,645
   0s639,645,645 0s639,645,649 0s63a,645,645 0s63a,645,64a 0s63a,645,649 0s641,62e,645
   0s641,62e,645 0s642,645,62d 0s642,645,645 0s644,62d,645 0s644,62d,64a 0s644,62d,649
   0s644,62c,62c 0s644,62c,62c 0s644,62e,645 0s644,62e,645 0s644,645,62d 0s644,645,62d
   0s645,62d,62c 0s645,62d,645 0s645,62d,64a 0s645,62c,62d 0s645,62c,645 0s645,62e,62c
   0s645,62e,645 2s645,62c,62e 0s647,645,62c 0s647,645,645 0s646,62d,645 0s646,62d,649
   0s646,62c,645 0s646,62c,645 0s646,62c,649 0s646,645,64a 0s646,645,649 0s64a,645,645
   0s64a,645,645 0s628,62e,64a 0s62a,62c,64a 0s62a,62c,649 0s62a,62e,64a 0s62a,62e,649
   0s62a,645,64a 0s62a,645,649 0s62c,645,64a 0s62c,62d,649 0s62c,645,649 0s633,62e,649
   0s635,62d,64a 0s634,62d,64a 0s636,62d,64a 0s644,62c,64a 0s644,645,64a 0s64a,62d,64a
   0s64a,62c,64a 0s64a,645,64a 0s645,645,64a 0s642,645,64a 0s646,62d,64a 0s642,645,62d
   0s644,62d,645 0s639,645,64a 0s643,645,64a 0s646,62c,62d 0s645,62e,64a 0s644,62c,645
   0s643,645,645 0s644,62c,645 0s646,62c,62d 0s62c,62d,64a 0s62d,62c,64a 0s645,62c,64a
   0s641,645,64a 0s628,62d,64a 0s643,645,645 0s639,62c,645 0s635,645,645 0s633,62e,64a
   0s646,62c,64a 8*20x 0s635,644,6d2 0s642,644,6d2 0s627,644,644,647 0s627,643,628,631
   0s645,62d,645,62f 0s635,644,639,645 0s631,633,648,644 0s639,644,64a,647 0s648,633,644,645
   0s635,644,649 0s635,644,649,20,627,644,644,647,20,639,644,64a,647,20,648,633,644,645
   0s62c,644,20,62c,644,627,644,647 0s631,6cc,627,644 3*10i 0s2c 0s3001 0x 0*2wfdd9 0s21 0s3f
   0*2wce01 0*7x 10x 0s2014 0s2013 0s5f 0s5f 0*2wfe0d 0s7b 0s7d 0*2wce25 0*2wce2b 0*2wce33
   0*2wce37 0*4wce35 2s5b 0s5d 0s20,305 0s20,305 0s20,305 0s20,305 0s5f 0s5f 0s5f 0s2c 0s3001
   0*2x 0s3b 0s3a 0s3f 0s21 0s2014 0*2wfe31 0s7b 0s7d 0*2wce49 0s23 0s26 0*2wfe37 0s2d 0s3c 0s3e
   0s3d 0x 0s5c 0*2wfe45 0s40 0*4x 0s20,64b 0s640,64b 0s20,64c 1s20,64d 0x 0s20,64e 0s640,64e
   0s20,64f 0s640,64f 0s20,650 0s640,650 0s20,651 0s640,651 0s20,652 0s640,652 0*2wf85f 0*2wf860
   0*2wf861 0*2wf862 0*2wf863 0s626 0s626 0*2wf866 0*2wf867 0s628 0s628 0*2wf86a 0*2wf86b 0s62a
   0s62a 0*2wf86e 0s62b 0s62b 0*2wf871 0s62c 0s62c 0*2wf874 0s62d 0s62d 0*2wf877 0s62e 0s62e
   0*2wf87a 0*2wf87b 0*2wf87c 0*2wf87d 0*2wf87e 0s633 0s633 0*2wf881 0s634 0s634 0*2wf884 0s635
   0s635 0*2wf887 0s636 0s636 0*2wf88a 0s637 0s637 0*2wf88d 0s638 0s638 0*2wf890 0s639 0s639
   0*2wf893 0s63a 0s63a 0s63a 0s641 0s641 0s641 0*2wf893 0s642 0s642 0*2wf896 0s643 0s643
   0*2wf899 0s644 0s644 0*2wf89c 0s645 0s645 0*2wf89f 0s646 0s646 0*2wf8a2 0s647 0s647 0*2wf8a5
   0*2wf8a6 0*2wf8a7 0s64a 0s64a 0s64a 0s644,622 0s644,622 0s644,623 0s644,623 0s644,625
   0s644,625 0s644,627 0s644,627 0*2x 0i 0x 0*20wfee0 0*1awfec0 0*24wfee0 0*2wd5da 0s2e 0*2wcf56
   0s3001 0s30fb 0s30f2 0s30a1 0s30a3 0s30a5 0s30a7 0s30a9 0s30e3 0s30e5 0s30e7 0s30c3 0s30fc
   0s30a2 0s30a4 0s30a6 0s30a8 0*2wcecb 0s30ad 0s30af 0s30b1 0s30b3 0s30b5 0s30b7 0s30b9 0s30bb
   0s30bd 0s30bf 0s30c1 0s30c4 0s30c6 0s30c8 0*6wcebb 0s30d2 0s30d5 0s30d8 0s30db 0*5wceb1
   0s30e4 0s30e6 0*6wceae 0s30ef 0s30f3 0*2wcf05 0i 0*2weea1 0s11aa 0s1102 0*2wedf9 0*3weea4
   0*6wedfa 0s111a 0*3weeab 0s1121 0*aweeac 0*3x 0*6wee61 0*2x 0*6wee63 0*2x 0*6wee65 0*2x
   0*3wee67 0*3x 0*2wff3e 0sac 0s20,304 0sa6 0sa5 0s20a9 0x 0s2502 0*4wde59 0s25a0 0s25cb 0*11x
   cx 1ax 13x 2x f*2x e*22x 7b*5x 3*4x 2d*3x 58x d*3x 1*2fx 2e*82x 1d*3x 31*fx 1c*4x 24*9x 1e*5x
   2b*5x 1ex 25*4x e*2ax 0*28u28 76*2x a*6x 0*24u28 0*4x 24*4x 28*8x 34*bx 1*bu27 0x 0*fu27 0x
   0*7u27 0x 0*2u27 0x bx fx 7x 2*3x 34*cx 137*9x 16*ax 8*18x 1*2w104b1 0se6 0s299 0s253 0x
   0s2a3 0sab66 0s2a5 0s2a4 0*2w10535 0s1d91 0s258 0s25e 0s2a9 0s264 0s262 0s260 0s29b 0s127
   0s29c 0s267 0s284 0*2w104ef 0s26c 0ud768 0sa78e 0s26e 0ud766 0s28e 0ud765 0sf8 0*2w1052d 0s71
   0s27a 0ud761 0*2w1052b 0s280 0s2a8 0s2a6 0sab67 0s2a7 0s288 0s2c71 0x 0s28f 0*2w10512 0s298
   0*3w105f6 0ud751 0ud764 0*45x 6*2x 1x 2cx 2*3x 1*2x 17x 48*8x 9*30x 13x 2*5x 21*3x 1b*5x
   1b*26x 38*4x 14*2x 32x 2*5x 8x 3x 1d*2x 3*4x a*7x 9*7x 40*20x 27*4x c*9x 36*3x 1d*2x 1b*5x
   1a*7x 4*cx 7*50x 49*37x 0*33u40 0*dx 33*7x 2e*8x a*6x 10*16u20 0*3x 1d*8x 2*d0x 1fx 2ax 3*2x
   2*10x 6*8x 9*21x 2e*8x 2a*16x 1a*26x 1c*14x 17*9x 4e*4x 24*9x 3ex 5*dx 19*7x a*6x 35x 12*8x
   27*9x 60x 14*bx 12x 2f*3ex 7x 1x 4x fx b*6x 3b*5x a*6x 4x 8*2x 2*2x 16x 7x 2x 5x a*2x 2*2x
   3*2x 1*6x 1*5x 7*2x 7*3x 5*bx ax 1*2x 1x 26x ax 1*2x 1x 4x ax 2*8x 2*1dx 5cx 5*1ex 48*8x
   a*a6x 36*2x 26*22x 45*bx a*6x d*13x 3a*6x a*6x 14*1cx 1b*2x f*4x 17*b9x 3c*64x 0*20u20 33*cx
   8*2x 1*2x 8x 2x 1ex 2*2x c*9x a*46x 8*2x 2e*2x b*1bx 48*8x 53*dx 49*7x a*56x 8*58x 22*ex a*6x
   9x 2dx e*ax 1d*3x 20*2x 16x e*49x 7x 2x 2c*3x 1x 2x 9*8x a*6x 6x 2x 25x 2x 6*7x a*6x 2c*4x
   a*f6x 19*7x 11x 29*3x 1d*55x 1*fx 32*dx 39b*66x 6fx 5*bx c4*a4cx 63*dx 430*10x 16*ax f9b*5x
   247*1ab9x 3a*6c6x 239*7x 1fx a*4x 51x a*6x 1e*2x 6*ax 46*ax ax 7x 15*5x 13*1b0x 3a*c6x
   0*20u20 3b*5x 0*19u1b 0*2x 19*2cx 4b*4x 39*7x 11*40x 5*bx 7*9x 1cd6*29x 20*61x 73*21fdx 4x 7x
   2x 123*fx 1*1dx 3*2x 1*ex 4*8x 18c*904x 6b*5x d*3x 9*7x a*2x 4*4i 0*f5cx d6*1aw1cc75
   0*aw1ccc0 3*3x 1b4*6x 17*fx 11*fx 2e*2x 17*9x 74*3cx f6*ax 27*2x 4a*8i 70*15x 46*7ax 14*cx
   14*cx 57*9x 19*87x 0*1aw1d39f 0*1aw1d3b9 0*1aw1d3d3 0*7w1d3ed 0x 0*12w1d3ed 0*1aw1d407
   0*1aw1d421 0s61 0x 0*2w1d43b 0*2x 0s67 0*2x 0*2w1d43b 0*2x 0*4w1d43b 0x 0*8w1d43b 0*4w1d455
   0x 0s66 0x 0*7w1d455 0x 0*bw1d455 0*1aw1d46f 0*1aw1d489 0*2w1d4a3 0x 0*4w1d4a3 0*2x 0*8w1d4a3
   0x 0*7w1d4a3 0x 0*1aw1d4bd 0*2w1d4d7 0x 0*4w1d4d7 0x 0*5w1d4d7 0x 0s6f 0*3x 0*7w1d4d7 0x
   0*1aw1d4f1 0*1aw1d50b 0*1aw1d525 0*1aw1d53f 0*1aw1d559 0*1aw1d573 0*1aw1d58d 0*1aw1d5a7
   0*1aw1d5c1 0*1aw1d5db 0*1aw1d5f5 0*1aw1d60f 0*1aw1d629 0s131 0s237 0*2x 0*11w1d2f7 0s3b8
   0*7w1d2f7 0s2207 0*11w1d311 0s3c3 0*7w1d311 0s2202 0s3b5 0s3b8 0s3ba 0s3c6 0s3c1 0s3c0
   0*11w1d331 0s3b8 0*7w1d331 0s2207 0*11w1d34b 0s3c3 0*7w1d34b 0s2202 0s3b5 0s3b8 0s3ba 0s3c6
   0s3c1 0s3c0 0*11w1d36b 0s3b8 0*7w1d36b 0s2207 0*11w1d385 0s3c3 0*7w1d385 0s2202 0s3b5 0s3b8
   0s3ba 0s3c6 0s3c1 0s3c0 0*11w1d3a5 0s3b8 0*7w1d3a5 0s2207 0*11w1d3bf 0s3c3 0*7w1d3bf 0s2202
   0s3b5 0s3b8 0s3ba 0s3c6 0s3c1 0s3c0 0*11w1d3df 0s3b8 0*7w1d3df 0s2207 0*11w1d3f9 0s3c3
   0*7w1d3f9 0s2202 0s3b5 0s3b8 0s3ba 0s3c6 0s3c1 0s3c0 0s3dd 0s3dd 0*2x 0*aw1d79e 0*aw1d7a8
   0*aw1d7b2 0*aw1d7bc 0*aw1d7c6 28c*fx 5x f*450x 1f*6x 6*d5x 7x 11*2x 7x 2x 5*5x 0*9w1dc00
   0*3w1dbff 0*bw1dbfe 0s44b 0*2w1dbfb 0sa689 0s4d9 0s456 0s458 0s4e9 0s4af 0s4cf 0*9w1dc21
   0*2w1dc20 0*2w1dc1e 0s441 0*6w1dc1c 0*2w1dc1b 0s491 0s456 0s455 0s45f 0s4ab 0sa651 0s4b1
   0*21x 1*70x 2d*3x e*2x a*4x 2*140x 1f*11x 3a*5x 1*1d0x 2a*d6x 2b*4x 1*c0x 1fx 16*8x 2*e0x 7x
   4x 2x fx c5*2x 10*29x 0*22u22 2a*4x a*4x 2*311x 44*4cx 3d*c2x 0*2w1e7d9 0s62c 0s62f 0x 0s648
   0s632 0s62d 0s637 0s64a 0*4w1e7c7 0s633 0s639 0s641 0s635 0s642 0s631 0s634 0*2w1e7eb 0s62e
   0s630 0s636 0s638 0s63a 0s66e 0s6ba 0s6a1 0s66f 0x 0s628 0s62c 0x 0s647 0*2x 0s62d 0x 0s64a
   0*4w1e7e7 0s633 0s639 0s641 0s635 0s642 0x 0s634 0*2w1e80b 0s62e 0x 0s636 0x 0s63a 0*6x 0s62c
   0*4x 0s62d 0x 0s64a 0x 0s644 0x 0s646 0s633 0s639 0x 0s635 0s642 0x 0s634 0*2x 0s62e 0x 0s636
   0x 0s63a 0x 0s6ba 0x 0s66f 0x 0s628 0s62c 0x 0s647 0*2x 0s62d 0s637 0s64a 0s643 0x 0*2w1e827
   0s633 0s639 0s641 0s635 0s642 0x 0s634 0*2w1e84b 0s62e 0x 0s636 0s638 0s63a 0s66e 0x 0s6a1 0x
   0*2w1e859 0s62c 0s62f 0*2w1e83d 0s632 0s62d 0s637 0s64a 0x 0*3w1e847 0s633 0s639 0s641 0s635
   0s642 0s631 0s634 0*2w1e86b 0s62e 0s630 0s636 0s638 0s63a 0*5x 0s628 0s62c 0s62f 0x 0s648
   0s632 0s62d 0s637 0s64a 0x 0*3w1e867 0s633 0s639 0s641 0s635 0s642 0s631 0s634 0*2w1e88b
   0s62e 0s630 0s636 0s638 0s63a 0*34x 2*10ex 2c*4x 64*cx f*2x fx fx 25*bx 0s30,2c 0s31,2c
   0s32,2c 0s33,2c 0s34,2c 0s35,2c 0s36,2c 0s37,2c 0s38,2c 0s39,2c 5s28,61,29 0s28,62,29
   0s28,63,29 0s28,64,29 0s28,65,29 0s28,66,29 0s28,67,29 0s28,68,29 0s28,69,29 0s28,6a,29
   0s28,6b,29 0s28,6c,29 0s28,6d,29 0s28,6e,29 0s28,6f,29 0s28,70,29 0s28,71,29 0s28,72,29
   0s28,73,29 0s28,74,29 0s28,75,29 0s28,76,29 0s28,77,29 0s28,78,29 0s28,79,29 0s28,7a,29
   0s3014,73,3015 0s63 0s72 0s63,64 0s77,7a 1*1aw1f0cf 0s68,76 0s6d,76 0s73,64 0s73,73
   0s70,70,76 0s77,63 1as6d,63 0s6d,64 0s6d,72 23s64,6a 1d*38x 1as307b,304b 0s30b3,30b3 0s30b5
   0*dx 0s624b 0s5b57 0s53cc 0s30c7 0s4e8c 0s591a 0s89e3 0s5929 0s4ea4 0s6620 0s7121 0s6599
   0s524d 0s5f8c 0s518d 0s65b0 0s521d 0s7d42 0s751f 0s8ca9 0s58f0 0s5439 0s6f14 0s6295 0s6355
   0s4e00 0s4e09 0s904a 0s5de6 0s4e2d 0s53f3 0s6307 0s8d70 0s6253 0s7981 0s7a7a 0s5408 0s6e80
   0s6709 0s6708 0s7533 0s5272 0s55b6 0s914d 0*4x 0s3014,672c,3015 0s3014,4e09,3015
   0s3014,4e8c,3015 0s3014,5b89,3015 0s3014,70b9,3015 0s3014,6253,3015 0s3014,76d7,3015
   0s3014,52dd,3015 0s3014,6557,3015 0*7x 0s5f97 0s53ef 0*ex 6*9ax 3d9*3x 11*3x d*3x da*6x c*4x
   1*fx c*4x 38*8x a*6x 28*8x 1e*2x c*4x 2*ex 9*27x 158*8x e*2x d*3x b*3x 39x 1*4x 10*2x c*4x
   a*7x 93x 5c*aw1fbc0 1*405x a6e0*20x 111e*2x 168e*2x 1d31*fx 26e*9a2x 21e*5e2x 134b*5x
   212a*acc86x 0*f0i 0*2fe10x"

def ofChar (char : Char) : Mapping :=
  let code := char.toNat
  match table.find? char with
  | none => keep
  | some row =>
    match row.tag, row.values with
    | 'i', _ => leaveOut
    | 'u', [offset] => become [Char.ofNat (code + offset)]
    | 'w', [offset] => become [Char.ofNat (code - offset)]
    | 'k', _ => if (code - row.first) % 2 = 0 then become [Char.ofNat (code + 1)] else keep
    | 's', text => become (text.map Char.ofNat)
    | _, _ => refuse

end Mapping

def mapped? (text : List Char) : Option (List Char) :=
  (text.foldrM (fun char rest =>
    match Mapping.ofChar char with
    | .keep => some (char :: rest)
    | .become text => some (text ++ rest)
    | .leaveOut => some rest
    | .refuse => none) []).map Composed.normal

def isMapped (text : List Char) : Bool := mapped? text = some text

end HookRelay.Domain
