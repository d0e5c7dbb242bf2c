import Rehearsal.Text.CodeTable

/-!
# Characters beyond the first plane

What characters stand for in names of domains. From U+10000 on.
-/

namespace Rehearsal.Domain

open Text

/-- Rows of what stands for something else. Those without values stand for nothing. -/
def beyond : CodeTable :=
  .ofText "10400-10427 10428, 104b0-104d3 104d8, 10570-1057a 10597, 1057c-1058a 105a3, 1058c-10592 105b3,
    10594-10595 105bb, 10781-10782 2d0, 10783 e6, 10784 299, 10785 253, 10787 2a3, 10788 ab66,
    10789 2a5, 1078a 2a4, 1078b-1078c 256, 1078d 1d91, 1078e 258, 1078f 25e, 10790 2a9, 10791 264,
    10792 262, 10793 260, 10794 29b, 10795 127, 10796 29c, 10797 267, 10798 284, 10799-1079a 2aa,
    1079b 26c, 1079c 1df04, 1079d a78e, 1079e 26e, 1079f 1df05, 107a0 28e, 107a1 1df06, 107a2 f8,
    107a3-107a4 276, 107a5 71, 107a6 27a, 107a7 1df08, 107a8-107a9 27d, 107aa 280, 107ab 2a8,
    107ac 2a6, 107ad ab67, 107ae 2a7, 107af 288, 107b0 2c71, 107b2 28f, 107b3-107b4 2a1,
    107b5 298, 107b6-107b8 1c0, 107b9 1df0a, 107ba 1df1e, 10c80-10cb2 10cc0, 10d50-10d65 10d70,
    118a0-118bf 118c0, 16e40-16e5f 16e60, 16ea0-16eb8 16ebb, 1bca0-1bca3, 1ccd6-1ccef 61,
    1ccf0-1ccf9 30, 1d15e 1d157 1d165, 1d15f 1d158 1d165, 1d160 1d158 1d165 1d16e,
    1d161 1d158 1d165 1d16f, 1d162 1d158 1d165 1d170, 1d163 1d158 1d165 1d171,
    1d164 1d158 1d165 1d172, 1d173-1d17a, 1d1bb 1d1b9 1d165, 1d1bc 1d1ba 1d165,
    1d1bd 1d1b9 1d165 1d16e, 1d1be 1d1ba 1d165 1d16e, 1d1bf 1d1b9 1d165 1d16f,
    1d1c0 1d1ba 1d165 1d16f, 1d400-1d419 61, 1d41a-1d433 61, 1d434-1d44d 61, 1d44e-1d454 61,
    1d456-1d467 69, 1d468-1d481 61, 1d482-1d49b 61, 1d49c 61, 1d49e-1d49f 63, 1d4a2 67,
    1d4a5-1d4a6 6a, 1d4a9-1d4ac 6e, 1d4ae-1d4b5 73, 1d4b6-1d4b9 61, 1d4bb 66, 1d4bd-1d4c3 68,
    1d4c5-1d4cf 70, 1d4d0-1d4e9 61, 1d4ea-1d503 61, 1d504-1d505 61, 1d507-1d50a 64,
    1d50d-1d514 6a, 1d516-1d51c 73, 1d51e-1d537 61, 1d538-1d539 61, 1d53b-1d53e 64,
    1d540-1d544 69, 1d546 6f, 1d54a-1d550 73, 1d552-1d56b 61, 1d56c-1d585 61, 1d586-1d59f 61,
    1d5a0-1d5b9 61, 1d5ba-1d5d3 61, 1d5d4-1d5ed 61, 1d5ee-1d607 61, 1d608-1d621 61,
    1d622-1d63b 61, 1d63c-1d655 61, 1d656-1d66f 61, 1d670-1d689 61, 1d68a-1d6a3 61, 1d6a4 131,
    1d6a5 237, 1d6a8-1d6b8 3b1, 1d6b9 3b8, 1d6ba-1d6c0 3c3, 1d6c1 2207, 1d6c2-1d6d2 3b1,
    1d6d3 3c3, 1d6d4-1d6da 3c3, 1d6db 2202, 1d6dc 3b5, 1d6dd 3b8, 1d6de 3ba, 1d6df 3c6, 1d6e0 3c1,
    1d6e1 3c0, 1d6e2-1d6f2 3b1, 1d6f3 3b8, 1d6f4-1d6fa 3c3, 1d6fb 2207, 1d6fc-1d70c 3b1,
    1d70d 3c3, 1d70e-1d714 3c3, 1d715 2202, 1d716 3b5, 1d717 3b8, 1d718 3ba, 1d719 3c6, 1d71a 3c1,
    1d71b 3c0, 1d71c-1d72c 3b1, 1d72d 3b8, 1d72e-1d734 3c3, 1d735 2207, 1d736-1d746 3b1,
    1d747 3c3, 1d748-1d74e 3c3, 1d74f 2202, 1d750 3b5, 1d751 3b8, 1d752 3ba, 1d753 3c6, 1d754 3c1,
    1d755 3c0, 1d756-1d766 3b1, 1d767 3b8, 1d768-1d76e 3c3, 1d76f 2207, 1d770-1d780 3b1,
    1d781 3c3, 1d782-1d788 3c3, 1d789 2202, 1d78a 3b5, 1d78b 3b8, 1d78c 3ba, 1d78d 3c6, 1d78e 3c1,
    1d78f 3c0, 1d790-1d7a0 3b1, 1d7a1 3b8, 1d7a2-1d7a8 3c3, 1d7a9 2207, 1d7aa-1d7ba 3b1,
    1d7bb 3c3, 1d7bc-1d7c2 3c3, 1d7c3 2202, 1d7c4 3b5, 1d7c5 3b8, 1d7c6 3ba, 1d7c7 3c6, 1d7c8 3c1,
    1d7c9 3c0, 1d7ca 3dd, 1d7cb 3dd, 1d7ce-1d7d7 30, 1d7d8-1d7e1 30, 1d7e2-1d7eb 30,
    1d7ec-1d7f5 30, 1d7f6-1d7ff 30, 1e030-1e038 430, 1e039-1e03b 43a, 1e03c-1e046 43e, 1e047 44b,
    1e048-1e049 44d, 1e04a a689, 1e04b 4d9, 1e04c 456, 1e04d 458, 1e04e 4e9, 1e04f 4af, 1e050 4cf,
    1e051-1e059 430, 1e05a-1e05b 43a, 1e05c-1e05d 43e, 1e05e 441, 1e05f-1e064 443,
    1e065-1e066 44a, 1e067 491, 1e068 456, 1e069 455, 1e06a 45f, 1e06b 4ab, 1e06c a651, 1e06d 4b1,
    1e900-1e921 1e922, 1ee00-1ee01 627, 1ee02 62c, 1ee03 62f, 1ee05 648, 1ee06 632, 1ee07 62d,
    1ee08 637, 1ee09 64a, 1ee0a-1ee0d 643, 1ee0e 633, 1ee0f 639, 1ee10 641, 1ee11 635, 1ee12 642,
    1ee13 631, 1ee14 634, 1ee15-1ee16 62a, 1ee17 62e, 1ee18 630, 1ee19 636, 1ee1a 638, 1ee1b 63a,
    1ee1c 66e, 1ee1d 6ba, 1ee1e 6a1, 1ee1f 66f, 1ee21 628, 1ee22 62c, 1ee24 647, 1ee27 62d,
    1ee29 64a, 1ee2a-1ee2d 643, 1ee2e 633, 1ee2f 639, 1ee30 641, 1ee31 635, 1ee32 642, 1ee34 634,
    1ee35-1ee36 62a, 1ee37 62e, 1ee39 636, 1ee3b 63a, 1ee42 62c, 1ee47 62d, 1ee49 64a, 1ee4b 644,
    1ee4d 646, 1ee4e 633, 1ee4f 639, 1ee51 635, 1ee52 642, 1ee54 634, 1ee57 62e, 1ee59 636,
    1ee5b 63a, 1ee5d 6ba, 1ee5f 66f, 1ee61 628, 1ee62 62c, 1ee64 647, 1ee67 62d, 1ee68 637,
    1ee69 64a, 1ee6a 643, 1ee6c-1ee6d 645, 1ee6e 633, 1ee6f 639, 1ee70 641, 1ee71 635, 1ee72 642,
    1ee74 634, 1ee75-1ee76 62a, 1ee77 62e, 1ee79 636, 1ee7a 638, 1ee7b 63a, 1ee7c 66e, 1ee7e 6a1,
    1ee80-1ee81 627, 1ee82 62c, 1ee83 62f, 1ee84-1ee85 647, 1ee86 632, 1ee87 62d, 1ee88 637,
    1ee89 64a, 1ee8b-1ee8d 644, 1ee8e 633, 1ee8f 639, 1ee90 641, 1ee91 635, 1ee92 642, 1ee93 631,
    1ee94 634, 1ee95-1ee96 62a, 1ee97 62e, 1ee98 630, 1ee99 636, 1ee9a 638, 1ee9b 63a, 1eea1 628,
    1eea2 62c, 1eea3 62f, 1eea5 648, 1eea6 632, 1eea7 62d, 1eea8 637, 1eea9 64a, 1eeab-1eead 644,
    1eeae 633, 1eeaf 639, 1eeb0 641, 1eeb1 635, 1eeb2 642, 1eeb3 631, 1eeb4 634, 1eeb5-1eeb6 62a,
    1eeb7 62e, 1eeb8 630, 1eeb9 636, 1eeba 638, 1eebb 63a, 1f101 30 2c, 1f102 31 2c, 1f103 32 2c,
    1f104 33 2c, 1f105 34 2c, 1f106 35 2c, 1f107 36 2c, 1f108 37 2c, 1f109 38 2c, 1f10a 39 2c,
    1f110 28 61 29, 1f111 28 62 29, 1f112 28 63 29, 1f113 28 64 29, 1f114 28 65 29,
    1f115 28 66 29, 1f116 28 67 29, 1f117 28 68 29, 1f118 28 69 29, 1f119 28 6a 29,
    1f11a 28 6b 29, 1f11b 28 6c 29, 1f11c 28 6d 29, 1f11d 28 6e 29, 1f11e 28 6f 29,
    1f11f 28 70 29, 1f120 28 71 29, 1f121 28 72 29, 1f122 28 73 29, 1f123 28 74 29,
    1f124 28 75 29, 1f125 28 76 29, 1f126 28 77 29, 1f127 28 78 29, 1f128 28 79 29,
    1f129 28 7a 29, 1f12a 3014 73 3015, 1f12b 63, 1f12c 72, 1f12d 63 64, 1f12e 77 7a,
    1f130-1f149 61, 1f14a 68 76, 1f14b 6d 76, 1f14c 73 64, 1f14d 73 73, 1f14e 70 70 76,
    1f14f 77 63, 1f16a 6d 63, 1f16b 6d 64, 1f16c 6d 72, 1f190 64 6a, 1f200 307b 304b,
    1f201 30b3 30b3, 1f202 30b5, 1f210 624b, 1f211 5b57, 1f212 53cc, 1f213 30c7, 1f214 4e8c,
    1f215 591a, 1f216 89e3, 1f217 5929, 1f218 4ea4, 1f219 6620, 1f21a 7121, 1f21b 6599,
    1f21c 524d, 1f21d 5f8c, 1f21e 518d, 1f21f 65b0, 1f220 521d, 1f221 7d42, 1f222 751f,
    1f223 8ca9, 1f224 58f0, 1f225 5439, 1f226 6f14, 1f227 6295, 1f228 6355, 1f229 4e00,
    1f22a 4e09, 1f22b 904a, 1f22c 5de6, 1f22d 4e2d, 1f22e 53f3, 1f22f 6307, 1f230 8d70,
    1f231 6253, 1f232 7981, 1f233 7a7a, 1f234 5408, 1f235 6e80, 1f236 6709, 1f237 6708,
    1f238 7533, 1f239 5272, 1f23a 55b6, 1f23b 914d, 1f240 3014 672c 3015, 1f241 3014 4e09 3015,
    1f242 3014 4e8c 3015, 1f243 3014 5b89 3015, 1f244 3014 70b9 3015, 1f245 3014 6253 3015,
    1f246 3014 76d7 3015, 1f247 3014 52dd 3015, 1f248 3014 6557 3015, 1f250 5f97, 1f251 53ef,
    1fbf0-1fbf9 30, 2f800 4e3d, 2f801 4e38, 2f802 4e41, 2f803 20122, 2f804 4f60, 2f805 4fae,
    2f806 4fbb, 2f807 5002, 2f808 507a, 2f809 5099, 2f80a 50e7, 2f80b 50cf, 2f80c 349e,
    2f80d 2063a, 2f80e 514d, 2f80f 5154, 2f810 5164, 2f811 5177, 2f812 2051c, 2f813 34b9,
    2f814 5167, 2f815 518d, 2f816 2054b, 2f817 5197, 2f818 51a4, 2f819 4ecc, 2f81a 51ac,
    2f81b 51b5, 2f81c 291df, 2f81d 51f5, 2f81e 5203, 2f81f 34df, 2f820 523b, 2f821 5246,
    2f822 5272, 2f823 5277, 2f824 3515, 2f825 52c7, 2f826 52c9, 2f827 52e4, 2f828 52fa,
    2f829-2f82a 5305, 2f82b 5317, 2f82c 5349, 2f82d 5351, 2f82e 535a, 2f82f 5373, 2f830 537d,
    2f831 537f, 2f832 537f, 2f833 537f, 2f834 20a2c, 2f835 7070, 2f836 53ca, 2f837 53df,
    2f838 20b63, 2f839 53eb, 2f83a 53f1, 2f83b 5406, 2f83c 549e, 2f83d 5438, 2f83e 5448,
    2f83f 5468, 2f840 54a2, 2f841 54f6, 2f842 5510, 2f843 5553, 2f844 5563, 2f845 5584,
    2f846 5584, 2f847 5599, 2f848 55ab, 2f849 55b3, 2f84a 55c2, 2f84b 5716, 2f84c 5606,
    2f84d 5717, 2f84e 5651, 2f84f 5674, 2f850 5207, 2f851 58ee, 2f852 57ce, 2f853 57f4,
    2f854 580d, 2f855 578b, 2f856 5832, 2f857 5831, 2f858 58ac, 2f859 214e4, 2f85a 58f2,
    2f85b 58f7, 2f85c 5906, 2f85d 591a, 2f85e 5922, 2f85f 5962, 2f860 216a8, 2f861 216ea,
    2f862 59ec, 2f863 5a1b, 2f864 5a27, 2f865 59d8, 2f866 5a66, 2f867 36ee, 2f868 36fc,
    2f869 5b08, 2f86a 5b3e, 2f86b 5b3e, 2f86c 219c8, 2f86d 5bc3, 2f86e 5bd8, 2f86f 5be7,
    2f870 5bf3, 2f871 21b18, 2f872 5bff, 2f873 5c06, 2f874 5f53, 2f875 5c22, 2f876 3781,
    2f877 5c60, 2f878 5c6e, 2f879 5cc0, 2f87a 5c8d, 2f87b 21de4, 2f87c 5d43, 2f87d 21de6,
    2f87e 5d6e, 2f87f 5d6b, 2f880 5d7c, 2f881-2f882 5de1, 2f883 382f, 2f884 5dfd, 2f885 5e28,
    2f886 5e3d, 2f887 5e69, 2f888 3862, 2f889 22183, 2f88a 387c, 2f88b 5eb0, 2f88c 5eb3,
    2f88d 5eb6, 2f88e 5eca, 2f88f 2a392, 2f890 5efe, 2f891 22331, 2f892 22331, 2f893 8201,
    2f894 5f22, 2f895 5f22, 2f896 38c7, 2f897 232b8, 2f898 261da, 2f899 5f62, 2f89a 5f6b,
    2f89b 38e3, 2f89c 5f9a, 2f89d 5fcd, 2f89e 5fd7, 2f89f 5ff9, 2f8a0 6081, 2f8a1 393a,
    2f8a2 391c, 2f8a3 6094, 2f8a4 226d4, 2f8a5 60c7, 2f8a6 6148, 2f8a7 614c, 2f8a8 614e,
    2f8a9 614c, 2f8aa 617a, 2f8ab 618e, 2f8ac 61b2, 2f8ad 61a4, 2f8ae 61af, 2f8af 61de,
    2f8b0 61f2, 2f8b1 61f6, 2f8b2 6210, 2f8b3 621b, 2f8b4 625d, 2f8b5 62b1, 2f8b6 62d4,
    2f8b7 6350, 2f8b8 22b0c, 2f8b9 633d, 2f8ba 62fc, 2f8bb 6368, 2f8bc 6383, 2f8bd 63e4,
    2f8be 22bf1, 2f8bf 6422, 2f8c0 63c5, 2f8c1 63a9, 2f8c2 3a2e, 2f8c3 6469, 2f8c4 647e,
    2f8c5 649d, 2f8c6 6477, 2f8c7 3a6c, 2f8c8 654f, 2f8c9 656c, 2f8ca 2300a, 2f8cb 65e3,
    2f8cc 66f8, 2f8cd 6649, 2f8ce 3b19, 2f8cf 6691, 2f8d0 3b08, 2f8d1 3ae4, 2f8d2 5192,
    2f8d3 5195, 2f8d4 6700, 2f8d5 669c, 2f8d6 80ad, 2f8d7 43d9, 2f8d8 6717, 2f8d9 671b,
    2f8da 6721, 2f8db 675e, 2f8dc 6753, 2f8dd 233c3, 2f8de 3b49, 2f8df 67fa, 2f8e0 6785,
    2f8e1 6852, 2f8e2 6885, 2f8e3 2346d, 2f8e4 688e, 2f8e5 681f, 2f8e6 6914, 2f8e7 3b9d,
    2f8e8 6942, 2f8e9 69a3, 2f8ea 69ea, 2f8eb 6aa8, 2f8ec 236a3, 2f8ed 6adb, 2f8ee 3c18,
    2f8ef 6b21, 2f8f0 238a7, 2f8f1 6b54, 2f8f2 3c4e, 2f8f3 6b72, 2f8f4 6b9f, 2f8f5-2f8f6 6bba,
    2f8f7 23a8d, 2f8f8 21d0b, 2f8f9 23afa, 2f8fa 6c4e, 2f8fb 23cbc, 2f8fc 6cbf, 2f8fd 6ccd,
    2f8fe 6c67, 2f8ff 6d16, 2f900 6d3e, 2f901 6d77, 2f902 6d41, 2f903 6d69, 2f904 6d78,
    2f905 6d85, 2f906 23d1e, 2f907 6d34, 2f908 6e2f, 2f909 6e6e, 2f90a 3d33, 2f90b 6ecb,
    2f90c 6ec7, 2f90d 23ed1, 2f90e 6df9, 2f90f 6f6e, 2f910 23f5e, 2f911 23f8e, 2f912 6fc6,
    2f913 7039, 2f914 701e, 2f915 701b, 2f916 3d96, 2f917 704a, 2f918 707d, 2f919 7077,
    2f91a 70ad, 2f91b 20525, 2f91c 7145, 2f91d 24263, 2f91e 719c, 2f91f 243ab, 2f920 7228,
    2f921 7235, 2f922 7250, 2f923 24608, 2f924 7280, 2f925 7295, 2f926 24735, 2f927 24814,
    2f928 737a, 2f929 738b, 2f92a 3eac, 2f92b 73a5, 2f92c 3eb8, 2f92d 3eb8, 2f92e 7447,
    2f92f 745c, 2f930 7471, 2f931 7485, 2f932 74ca, 2f933 3f1b, 2f934 7524, 2f935 24c36,
    2f936 753e, 2f937 24c92, 2f938 7570, 2f939 2219f, 2f93a 7610, 2f93b 24fa1, 2f93c 24fb8,
    2f93d 25044, 2f93e 3ffc, 2f93f 4008, 2f940 76f4, 2f941 250f3, 2f942 250f2, 2f943 25119,
    2f944 25133, 2f945-2f946 771e, 2f947 771f, 2f948 774a, 2f949 4039, 2f94a 778b, 2f94b 4046,
    2f94c 4096, 2f94d 2541d, 2f94e 784e, 2f94f 788c, 2f950 78cc, 2f951 40e3, 2f952 25626,
    2f953 7956, 2f954 2569a, 2f955 256c5, 2f956 798f, 2f957 79eb, 2f958 412f, 2f959 7a40,
    2f95a 7a4a, 2f95b 7a4f, 2f95c 2597c, 2f95d 25aa7, 2f95e 25aa7, 2f95f 7aee, 2f960 4202,
    2f961 25bab, 2f962 7bc6, 2f963 7bc9, 2f964 4227, 2f965 25c80, 2f966 7cd2, 2f967 42a0,
    2f968 7ce8, 2f969 7ce3, 2f96a 7d00, 2f96b 25f86, 2f96c 7d63, 2f96d 4301, 2f96e 7dc7,
    2f96f 7e02, 2f970 7e45, 2f971 4334, 2f972 26228, 2f973 26247, 2f974 4359, 2f975 262d9,
    2f976 7f7a, 2f977 2633e, 2f978 7f95, 2f979 7ffa, 2f97a 8005, 2f97b 264da, 2f97c 26523,
    2f97d 8060, 2f97e 265a8, 2f97f 8070, 2f980 2335f, 2f981 43d5, 2f982 80b2, 2f983 8103,
    2f984 440b, 2f985 813e, 2f986 5ab5, 2f987 267a7, 2f988 267b5, 2f989 23393, 2f98a 2339c,
    2f98b 8201, 2f98c 8204, 2f98d 8f9e, 2f98e 446b, 2f98f 8291, 2f990 828b, 2f991 829d,
    2f992 52b3, 2f993 82b1, 2f994 82b3, 2f995 82bd, 2f996 82e6, 2f997 26b3c, 2f998 82e5,
    2f999 831d, 2f99a 8363, 2f99b 83ad, 2f99c 8323, 2f99d 83bd, 2f99e 83e7, 2f99f 8457,
    2f9a0 8353, 2f9a1 83ca, 2f9a2 83cc, 2f9a3 83dc, 2f9a4 26c36, 2f9a5 26d6b, 2f9a6 26cd5,
    2f9a7 452b, 2f9a8 84f1, 2f9a9 84f3, 2f9aa 8516, 2f9ab 273ca, 2f9ac 8564, 2f9ad 26f2c,
    2f9ae 455d, 2f9af 4561, 2f9b0 26fb1, 2f9b1 270d2, 2f9b2 456b, 2f9b3 8650, 2f9b4 865c,
    2f9b5 8667, 2f9b6 8669, 2f9b7 86a9, 2f9b8 8688, 2f9b9 870e, 2f9ba 86e2, 2f9bb 8779,
    2f9bc 8728, 2f9bd 876b, 2f9be 8786, 2f9bf 45d7, 2f9c0 87e1, 2f9c1 8801, 2f9c2 45f9,
    2f9c3 8860, 2f9c4 8863, 2f9c5 27667, 2f9c6 88d7, 2f9c7 88de, 2f9c8 4635, 2f9c9 88fa,
    2f9ca 34bb, 2f9cb 278ae, 2f9cc 27966, 2f9cd 46be, 2f9ce 46c7, 2f9cf 8aa0, 2f9d0 8aed,
    2f9d1 8b8a, 2f9d2 8c55, 2f9d3 27ca8, 2f9d4 8cab, 2f9d5 8cc1, 2f9d6 8d1b, 2f9d7 8d77,
    2f9d8 27f2f, 2f9d9 20804, 2f9da 8dcb, 2f9db 8dbc, 2f9dc 8df0, 2f9dd 208de, 2f9de 8ed4,
    2f9df 8f38, 2f9e0 285d2, 2f9e1 285ed, 2f9e2 9094, 2f9e3 90f1, 2f9e4 9111, 2f9e5 2872e,
    2f9e6 911b, 2f9e7 9238, 2f9e8-2f9e9 92d7, 2f9ea 927c, 2f9eb 93f9, 2f9ec 9415, 2f9ed 28bfa,
    2f9ee 958b, 2f9ef 4995, 2f9f0 95b7, 2f9f1 28d77, 2f9f2 49e6, 2f9f3 96c3, 2f9f4 5db2,
    2f9f5 9723, 2f9f6 29145, 2f9f7 2921a, 2f9f8 4a6e, 2f9f9 4a76, 2f9fa 97e0, 2f9fb 2940a,
    2f9fc 4ab2, 2f9fd 29496, 2f9fe 980b, 2f9ff 980b, 2fa00 9829, 2fa01 295b6, 2fa02 98e2,
    2fa03 4b33, 2fa04 9929, 2fa05 99a7, 2fa06 99c2, 2fa07 99fe, 2fa08 4bce, 2fa09 29b30,
    2fa0a 9b12, 2fa0b 9c40, 2fa0c 9cfd, 2fa0d 4cce, 2fa0e 4ced, 2fa0f 9d67, 2fa10 2a0ce,
    2fa11 4cf8, 2fa12 2a105, 2fa13 2a20e, 2fa14 2a291, 2fa15 9ebb, 2fa16 4d56, 2fa17 9ef9,
    2fa18 9efe, 2fa19 9f05, 2fa1a 9f0f, 2fa1b 9f16, 2fa1c 9f3b, 2fa1d 2a600, e0100-e01ef"

end Rehearsal.Domain
