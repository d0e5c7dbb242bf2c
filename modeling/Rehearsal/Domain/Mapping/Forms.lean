import Rehearsal.Text.CodeTable

/-!
# Compatibility forms

What characters stand for in names of domains. Ideographs and presentation forms that exist for other standards: U+F900 to U+FFFF.
-/

namespace Rehearsal.Domain

open Text

/-- Rows of what stands for something else. Those without values stand for nothing. -/
def forms : CodeTable :=
  .ofText "f900 8c48, f901 66f4, f902 8eca, f903 8cc8, f904 6ed1, f905 4e32, f906 53e5, f907 9f9c,
    f908 9f9c, f909 5951, f90a 91d1, f90b 5587, f90c 5948, f90d 61f6, f90e 7669, f90f 7f85,
    f910 863f, f911 87ba, f912 88f8, f913 908f, f914 6a02, f915 6d1b, f916 70d9, f917 73de,
    f918 843d, f919 916a, f91a 99f1, f91b 4e82, f91c 5375, f91d 6b04, f91e 721b, f91f 862d,
    f920 9e1e, f921 5d50, f922 6feb, f923 85cd, f924 8964, f925 62c9, f926 81d8, f927 881f,
    f928 5eca, f929 6717, f92a 6d6a, f92b 72fc, f92c 90ce, f92d 4f86, f92e 51b7, f92f 52de,
    f930 64c4, f931 6ad3, f932 7210, f933 76e7, f934 8001, f935 8606, f936 865c, f937 8def,
    f938 9732, f939 9b6f, f93a 9dfa, f93b 788c, f93c 797f, f93d 7da0, f93e 83c9, f93f 9304,
    f940 9e7f, f941 8ad6, f942 58df, f943 5f04, f944 7c60, f945 807e, f946 7262, f947 78ca,
    f948 8cc2, f949 96f7, f94a 58d8, f94b 5c62, f94c 6a13, f94d 6dda, f94e 6f0f, f94f 7d2f,
    f950 7e37, f951 964b, f952 52d2, f953 808b, f954 51dc, f955 51cc, f956 7a1c, f957 7dbe,
    f958 83f1, f959 9675, f95a 8b80, f95b 62cf, f95c 6a02, f95d 8afe, f95e 4e39, f95f 5be7,
    f960 6012, f961 7387, f962 7570, f963 5317, f964 78fb, f965 4fbf, f966 5fa9, f967 4e0d,
    f968 6ccc, f969 6578, f96a 7d22, f96b 53c3, f96c 585e, f96d 7701, f96e 8449, f96f 8aaa,
    f970 6bba, f971 8fb0, f972 6c88, f973 62fe, f974 82e5, f975 63a0, f976 7565, f977 4eae,
    f978 5169, f979 51c9, f97a 6881, f97b 7ce7, f97c 826f, f97d 8ad2, f97e 91cf, f97f 52f5,
    f980 5442, f981 5973, f982 5eec, f983 65c5, f984 6ffe, f985 792a, f986 95ad, f987 9a6a,
    f988 9e97, f989 9ece, f98a 529b, f98b 66c6, f98c 6b77, f98d 8f62, f98e 5e74, f98f 6190,
    f990 6200, f991 649a, f992 6f23, f993 7149, f994 7489, f995 79ca, f996 7df4, f997 806f,
    f998 8f26, f999 84ee, f99a 9023, f99b 934a, f99c 5217, f99d 52a3, f99e 54bd, f99f 70c8,
    f9a0 88c2, f9a1 8aaa, f9a2 5ec9, f9a3 5ff5, f9a4 637b, f9a5 6bae, f9a6 7c3e, f9a7 7375,
    f9a8 4ee4, f9a9 56f9, f9aa 5be7, f9ab 5dba, f9ac 601c, f9ad 73b2, f9ae 7469, f9af 7f9a,
    f9b0 8046, f9b1 9234, f9b2 96f6, f9b3 9748, f9b4 9818, f9b5 4f8b, f9b6 79ae, f9b7 91b4,
    f9b8 96b8, f9b9 60e1, f9ba 4e86, f9bb 50da, f9bc 5bee, f9bd 5c3f, f9be 6599, f9bf 6a02,
    f9c0 71ce, f9c1 7642, f9c2 84fc, f9c3 907c, f9c4 9f8d, f9c5 6688, f9c6 962e, f9c7 5289,
    f9c8 677b, f9c9 67f3, f9ca 6d41, f9cb 6e9c, f9cc 7409, f9cd 7559, f9ce 786b, f9cf 7d10,
    f9d0 985e, f9d1 516d, f9d2 622e, f9d3 9678, f9d4 502b, f9d5 5d19, f9d6 6dea, f9d7 8f2a,
    f9d8 5f8b, f9d9 6144, f9da 6817, f9db 7387, f9dc 9686, f9dd 5229, f9de 540f, f9df 5c65,
    f9e0 6613, f9e1 674e, f9e2 68a8, f9e3 6ce5, f9e4 7406, f9e5 75e2, f9e6 7f79, f9e7 88cf,
    f9e8 88e1, f9e9 91cc, f9ea 96e2, f9eb 533f, f9ec 6eba, f9ed 541d, f9ee 71d0, f9ef 7498,
    f9f0 85fa, f9f1 96a3, f9f2 9c57, f9f3 9e9f, f9f4 6797, f9f5 6dcb, f9f6 81e8, f9f7 7acb,
    f9f8 7b20, f9f9 7c92, f9fa 72c0, f9fb 7099, f9fc 8b58, f9fd 4ec0, f9fe 8336, f9ff 523a,
    fa00 5207, fa01 5ea6, fa02 62d3, fa03 7cd6, fa04 5b85, fa05 6d1e, fa06 66b4, fa07 8f3b,
    fa08 884c, fa09 964d, fa0a 898b, fa0b 5ed3, fa0c 5140, fa0d 55c0, fa10 585a, fa12 6674,
    fa15 51de, fa16 732a, fa17 76ca, fa18 793c, fa19 795e, fa1a 7965, fa1b 798f, fa1c 9756,
    fa1d 7cbe, fa1e 7fbd, fa20 8612, fa22 8af8, fa25 9038, fa26 90fd, fa2a 98ef, fa2b 98fc,
    fa2c 9928, fa2d 9db4, fa2e 90de, fa2f 96b7, fa30 4fae, fa31 50e7, fa32 514d, fa33 52c9,
    fa34 52e4, fa35 5351, fa36 559d, fa37 5606, fa38 5668, fa39 5840, fa3a 58a8, fa3b 5c64,
    fa3c 5c6e, fa3d 6094, fa3e 6168, fa3f 618e, fa40 61f2, fa41 654f, fa42 65e2, fa43 6691,
    fa44 6885, fa45 6d77, fa46 6e1a, fa47 6f22, fa48 716e, fa49 722b, fa4a 7422, fa4b 7891,
    fa4c 793e, fa4d 7949, fa4e 7948, fa4f 7950, fa50 7956, fa51 795d, fa52-fa53 798d, fa54 7a40,
    fa55 7a81, fa56 7bc0, fa57 7df4, fa58 7e09, fa59 7e41, fa5a 7f72, fa5b 8005, fa5c 81ed,
    fa5d 8279, fa5e 8279, fa5f 8457, fa60 8910, fa61 8996, fa62 8b01, fa63 8b39, fa64 8cd3,
    fa65 8d08, fa66 8fb6, fa67 9038, fa68 96e3, fa69 97ff, fa6a 983b, fa6b 6075, fa6c 242ee,
    fa6d 8218, fa70 4e26, fa71 51b5, fa72 5168, fa73 4f80, fa74 5145, fa75 5180, fa76 52c7,
    fa77 52fa, fa78 559d, fa79 5555, fa7a 5599, fa7b 55e2, fa7c 585a, fa7d 58b3, fa7e 5944,
    fa7f 5954, fa80 5a62, fa81 5b28, fa82 5ed2, fa83 5ed9, fa84 5f69, fa85 5fad, fa86 60d8,
    fa87 614e, fa88 6108, fa89 618e, fa8a 6160, fa8b 61f2, fa8c 6234, fa8d 63c4, fa8e 641c,
    fa8f 6452, fa90 6556, fa91 6674, fa92 6717, fa93 671b, fa94 6756, fa95 6b79, fa96 6bba,
    fa97 6d41, fa98 6edb, fa99 6ecb, fa9a 6f22, fa9b 701e, fa9c 716e, fa9d 77a7, fa9e 7235,
    fa9f 72af, faa0 732a, faa1 7471, faa2 7506, faa3 753b, faa4 761d, faa5 761f, faa6 76ca,
    faa7 76db, faa8 76f4, faa9 774a, faaa 7740, faab 78cc, faac 7ab1, faad 7bc0, faae 7c7b,
    faaf 7d5b, fab0 7df4, fab1 7f3e, fab2 8005, fab3 8352, fab4 83ef, fab5 8779, fab6 8941,
    fab7 8986, fab8 8996, fab9 8abf, faba 8af8, fabb 8acb, fabc 8b01, fabd 8afe, fabe 8aed,
    fabf 8b39, fac0 8b8a, fac1 8d08, fac2 8f38, fac3 9072, fac4 9199, fac5 9276, fac6 967c,
    fac7 96e3, fac8 9756, fac9 97db, faca 97ff, facb 980b, facc 983b, facd 9b12, face 9f9c,
    facf 2284a, fad0 22844, fad1 233d5, fad2 3b9d, fad3 4018, fad4 4039, fad5 25249, fad6 25cd0,
    fad7 27ed3, fad8 9f43, fad9 9f8e, fb00 66 66, fb01 66 69, fb02 66 6c, fb03 66 66 69,
    fb04 66 66 6c, fb05 73 74, fb06 73 74, fb13 574 576, fb14 574 565, fb15 574 56b, fb16 57e 576,
    fb17 574 56d, fb1d 5d9 5b4, fb1f 5f2 5b7, fb20 5e2, fb21 5d0, fb22-fb23 5d3, fb24-fb26 5db,
    fb27 5e8, fb28 5ea, fb29 2b, fb2a 5e9 5c1, fb2b 5e9 5c2, fb2c 5e9 5bc 5c1, fb2d 5e9 5bc 5c2,
    fb2e 5d0 5b7, fb2f 5d0 5b8, fb30 5d0 5bc, fb31 5d1 5bc, fb32 5d2 5bc, fb33 5d3 5bc,
    fb34 5d4 5bc, fb35 5d5 5bc, fb36 5d6 5bc, fb38 5d8 5bc, fb39 5d9 5bc, fb3a 5da 5bc,
    fb3b 5db 5bc, fb3c 5dc 5bc, fb3e 5de 5bc, fb40 5e0 5bc, fb41 5e1 5bc, fb43 5e3 5bc,
    fb44 5e4 5bc, fb46 5e6 5bc, fb47 5e7 5bc, fb48 5e8 5bc, fb49 5e9 5bc, fb4a 5ea 5bc,
    fb4b 5d5 5b9, fb4c 5d1 5bf, fb4d 5db 5bf, fb4e 5e4 5bf, fb4f 5d0 5dc, fb50 671, fb51 671,
    fb52 67b, fb53 67b, fb54 67b, fb55 67b, fb56 67e, fb57 67e, fb58 67e, fb59 67e, fb5a 680,
    fb5b 680, fb5c 680, fb5d 680, fb5e 67a, fb5f 67a, fb60 67a, fb61 67a, fb62 67f, fb63 67f,
    fb64 67f, fb65 67f, fb66 679, fb67 679, fb68 679, fb69 679, fb6a 6a4, fb6b 6a4, fb6c 6a4,
    fb6d 6a4, fb6e 6a6, fb6f 6a6, fb70 6a6, fb71 6a6, fb72 684, fb73 684, fb74 684, fb75 684,
    fb76 683, fb77 683, fb78 683, fb79 683, fb7a 686, fb7b 686, fb7c 686, fb7d-fb7e 686, fb7f 687,
    fb80 687, fb81 687, fb82 68d, fb83 68d, fb84 68c, fb85 68c, fb86 68e, fb87 68e, fb88 688,
    fb89 688, fb8a 698, fb8b 698, fb8c 691, fb8d 691, fb8e 6a9, fb8f 6a9, fb90 6a9, fb91 6a9,
    fb92 6af, fb93 6af, fb94 6af, fb95 6af, fb96 6b3, fb97 6b3, fb98 6b3, fb99 6b3, fb9a 6b1,
    fb9b 6b1, fb9c 6b1, fb9d 6b1, fb9e 6ba, fb9f-fba0 6ba, fba1 6bb, fba2 6bb, fba3 6bb, fba4 6c0,
    fba5-fba6 6c0, fba7 6c1, fba8 6c1, fba9 6c1, fbaa 6be, fbab 6be, fbac 6be, fbad 6be, fbae 6d2,
    fbaf-fbb0 6d2, fbb1 6d3, fbd3 6ad, fbd4 6ad, fbd5 6ad, fbd6 6ad, fbd7 6c7, fbd8 6c7, fbd9 6c6,
    fbda 6c6, fbdb 6c8, fbdc 6c8, fbdd 6c7 674, fbde 6cb, fbdf 6cb, fbe0 6c5, fbe1 6c5, fbe2 6c9,
    fbe3 6c9, fbe4 6d0, fbe5 6d0, fbe6 6d0, fbe7 6d0, fbe8 649, fbe9 649, fbea 626 627,
    fbeb 626 627, fbec 626 6d5, fbed 626 6d5, fbee 626 648, fbef 626 648, fbf0 626 6c7,
    fbf1 626 6c7, fbf2 626 6c6, fbf3 626 6c6, fbf4 626 6c8, fbf5 626 6c8, fbf6 626 6d0,
    fbf7 626 6d0, fbf8 626 6d0, fbf9 626 649, fbfa 626 649, fbfb 626 649, fbfc 6cc, fbfd 6cc,
    fbfe 6cc, fbff 6cc, fc00 626 62c, fc01 626 62d, fc02 626 645, fc03 626 649, fc04 626 64a,
    fc05 628 62c, fc06 628 62d, fc07 628 62e, fc08 628 645, fc09 628 649, fc0a 628 64a,
    fc0b 62a 62c, fc0c 62a 62d, fc0d 62a 62e, fc0e 62a 645, fc0f 62a 649, fc10 62a 64a,
    fc11 62b 62c, fc12 62b 645, fc13 62b 649, fc14 62b 64a, fc15 62c 62d, fc16 62c 645,
    fc17 62d 62c, fc18 62d 645, fc19 62e 62c, fc1a 62e 62d, fc1b 62e 645, fc1c 633 62c,
    fc1d 633 62d, fc1e 633 62e, fc1f 633 645, fc20 635 62d, fc21 635 645, fc22 636 62c,
    fc23 636 62d, fc24 636 62e, fc25 636 645, fc26 637 62d, fc27 637 645, fc28 638 645,
    fc29 639 62c, fc2a 639 645, fc2b 63a 62c, fc2c 63a 645, fc2d 641 62c, fc2e 641 62d,
    fc2f 641 62e, fc30 641 645, fc31 641 649, fc32 641 64a, fc33 642 62d, fc34 642 645,
    fc35 642 649, fc36 642 64a, fc37 643 627, fc38 643 62c, fc39 643 62d, fc3a 643 62e,
    fc3b 643 644, fc3c 643 645, fc3d 643 649, fc3e 643 64a, fc3f 644 62c, fc40 644 62d,
    fc41 644 62e, fc42 644 645, fc43 644 649, fc44 644 64a, fc45 645 62c, fc46 645 62d,
    fc47 645 62e, fc48 645 645, fc49 645 649, fc4a 645 64a, fc4b 646 62c, fc4c 646 62d,
    fc4d 646 62e, fc4e 646 645, fc4f 646 649, fc50 646 64a, fc51 647 62c, fc52 647 645,
    fc53 647 649, fc54 647 64a, fc55 64a 62c, fc56 64a 62d, fc57 64a 62e, fc58 64a 645,
    fc59 64a 649, fc5a 64a 64a, fc5b 630 670, fc5c 631 670, fc5d 649 670, fc5e 20 64c 651,
    fc5f 20 64d 651, fc60 20 64e 651, fc61 20 64f 651, fc62 20 650 651, fc63 20 651 670,
    fc64 626 631, fc65 626 632, fc66 626 645, fc67 626 646, fc68 626 649, fc69 626 64a,
    fc6a 628 631, fc6b 628 632, fc6c 628 645, fc6d 628 646, fc6e 628 649, fc6f 628 64a,
    fc70 62a 631, fc71 62a 632, fc72 62a 645, fc73 62a 646, fc74 62a 649, fc75 62a 64a,
    fc76 62b 631, fc77 62b 632, fc78 62b 645, fc79 62b 646, fc7a 62b 649, fc7b 62b 64a,
    fc7c 641 649, fc7d 641 64a, fc7e 642 649, fc7f 642 64a, fc80 643 627, fc81 643 644,
    fc82 643 645, fc83 643 649, fc84 643 64a, fc85 644 645, fc86 644 649, fc87 644 64a,
    fc88 645 627, fc89 645 645, fc8a 646 631, fc8b 646 632, fc8c 646 645, fc8d 646 646,
    fc8e 646 649, fc8f 646 64a, fc90 649 670, fc91 64a 631, fc92 64a 632, fc93 64a 645,
    fc94 64a 646, fc95 64a 649, fc96 64a 64a, fc97 626 62c, fc98 626 62d, fc99 626 62e,
    fc9a 626 645, fc9b 626 647, fc9c 628 62c, fc9d 628 62d, fc9e 628 62e, fc9f 628 645,
    fca0 628 647, fca1 62a 62c, fca2 62a 62d, fca3 62a 62e, fca4 62a 645, fca5 62a 647,
    fca6 62b 645, fca7 62c 62d, fca8 62c 645, fca9 62d 62c, fcaa 62d 645, fcab 62e 62c,
    fcac 62e 645, fcad 633 62c, fcae 633 62d, fcaf 633 62e, fcb0 633 645, fcb1 635 62d,
    fcb2 635 62e, fcb3 635 645, fcb4 636 62c, fcb5 636 62d, fcb6 636 62e, fcb7 636 645,
    fcb8 637 62d, fcb9 638 645, fcba 639 62c, fcbb 639 645, fcbc 63a 62c, fcbd 63a 645,
    fcbe 641 62c, fcbf 641 62d, fcc0 641 62e, fcc1 641 645, fcc2 642 62d, fcc3 642 645,
    fcc4 643 62c, fcc5 643 62d, fcc6 643 62e, fcc7 643 644, fcc8 643 645, fcc9 644 62c,
    fcca 644 62d, fccb 644 62e, fccc 644 645, fccd 644 647, fcce 645 62c, fccf 645 62d,
    fcd0 645 62e, fcd1 645 645, fcd2 646 62c, fcd3 646 62d, fcd4 646 62e, fcd5 646 645,
    fcd6 646 647, fcd7 647 62c, fcd8 647 645, fcd9 647 670, fcda 64a 62c, fcdb 64a 62d,
    fcdc 64a 62e, fcdd 64a 645, fcde 64a 647, fcdf 626 645, fce0 626 647, fce1 628 645,
    fce2 628 647, fce3 62a 645, fce4 62a 647, fce5 62b 645, fce6 62b 647, fce7 633 645,
    fce8 633 647, fce9 634 645, fcea 634 647, fceb 643 644, fcec 643 645, fced 644 645,
    fcee 646 645, fcef 646 647, fcf0 64a 645, fcf1 64a 647, fcf2 640 64e 651, fcf3 640 64f 651,
    fcf4 640 650 651, fcf5 637 649, fcf6 637 64a, fcf7 639 649, fcf8 639 64a, fcf9 63a 649,
    fcfa 63a 64a, fcfb 633 649, fcfc 633 64a, fcfd 634 649, fcfe 634 64a, fcff 62d 649,
    fd00 62d 64a, fd01 62c 649, fd02 62c 64a, fd03 62e 649, fd04 62e 64a, fd05 635 649,
    fd06 635 64a, fd07 636 649, fd08 636 64a, fd09 634 62c, fd0a 634 62d, fd0b 634 62e,
    fd0c 634 645, fd0d 634 631, fd0e 633 631, fd0f 635 631, fd10 636 631, fd11 637 649,
    fd12 637 64a, fd13 639 649, fd14 639 64a, fd15 63a 649, fd16 63a 64a, fd17 633 649,
    fd18 633 64a, fd19 634 649, fd1a 634 64a, fd1b 62d 649, fd1c 62d 64a, fd1d 62c 649,
    fd1e 62c 64a, fd1f 62e 649, fd20 62e 64a, fd21 635 649, fd22 635 64a, fd23 636 649,
    fd24 636 64a, fd25 634 62c, fd26 634 62d, fd27 634 62e, fd28 634 645, fd29 634 631,
    fd2a 633 631, fd2b 635 631, fd2c 636 631, fd2d 634 62c, fd2e 634 62d, fd2f 634 62e,
    fd30 634 645, fd31 633 647, fd32 634 647, fd33 637 645, fd34 633 62c, fd35 633 62d,
    fd36 633 62e, fd37 634 62c, fd38 634 62d, fd39 634 62e, fd3a 637 645, fd3b 638 645,
    fd3c 627 64b, fd3d 627 64b, fd50 62a 62c 645, fd51 62a 62d 62c, fd52 62a 62d 62c,
    fd53 62a 62d 645, fd54 62a 62e 645, fd55 62a 645 62c, fd56 62a 645 62d, fd57 62a 645 62e,
    fd58 62c 645 62d, fd59 62c 645 62d, fd5a 62d 645 64a, fd5b 62d 645 649, fd5c 633 62d 62c,
    fd5d 633 62c 62d, fd5e 633 62c 649, fd5f 633 645 62d, fd60 633 645 62d, fd61 633 645 62c,
    fd62 633 645 645, fd63 633 645 645, fd64 635 62d 62d, fd65 635 62d 62d, fd66 635 645 645,
    fd67 634 62d 645, fd68 634 62d 645, fd69 634 62c 64a, fd6a 634 645 62e, fd6b 634 645 62e,
    fd6c 634 645 645, fd6d 634 645 645, fd6e 636 62d 649, fd6f 636 62e 645, fd70 636 62e 645,
    fd71 637 645 62d, fd72 637 645 62d, fd73 637 645 645, fd74 637 645 64a, fd75 639 62c 645,
    fd76 639 645 645, fd77 639 645 645, fd78 639 645 649, fd79 63a 645 645, fd7a 63a 645 64a,
    fd7b 63a 645 649, fd7c 641 62e 645, fd7d 641 62e 645, fd7e 642 645 62d, fd7f 642 645 645,
    fd80 644 62d 645, fd81 644 62d 64a, fd82 644 62d 649, fd83 644 62c 62c, fd84 644 62c 62c,
    fd85 644 62e 645, fd86 644 62e 645, fd87 644 645 62d, fd88 644 645 62d, fd89 645 62d 62c,
    fd8a 645 62d 645, fd8b 645 62d 64a, fd8c 645 62c 62d, fd8d 645 62c 645, fd8e 645 62e 62c,
    fd8f 645 62e 645, fd92 645 62c 62e, fd93 647 645 62c, fd94 647 645 645, fd95 646 62d 645,
    fd96 646 62d 649, fd97 646 62c 645, fd98 646 62c 645, fd99 646 62c 649, fd9a 646 645 64a,
    fd9b 646 645 649, fd9c 64a 645 645, fd9d 64a 645 645, fd9e 628 62e 64a, fd9f 62a 62c 64a,
    fda0 62a 62c 649, fda1 62a 62e 64a, fda2 62a 62e 649, fda3 62a 645 64a, fda4 62a 645 649,
    fda5 62c 645 64a, fda6 62c 62d 649, fda7 62c 645 649, fda8 633 62e 649, fda9 635 62d 64a,
    fdaa 634 62d 64a, fdab 636 62d 64a, fdac 644 62c 64a, fdad 644 645 64a, fdae 64a 62d 64a,
    fdaf 64a 62c 64a, fdb0 64a 645 64a, fdb1 645 645 64a, fdb2 642 645 64a, fdb3 646 62d 64a,
    fdb4 642 645 62d, fdb5 644 62d 645, fdb6 639 645 64a, fdb7 643 645 64a, fdb8 646 62c 62d,
    fdb9 645 62e 64a, fdba 644 62c 645, fdbb 643 645 645, fdbc 644 62c 645, fdbd 646 62c 62d,
    fdbe 62c 62d 64a, fdbf 62d 62c 64a, fdc0 645 62c 64a, fdc1 641 645 64a, fdc2 628 62d 64a,
    fdc3 643 645 645, fdc4 639 62c 645, fdc5 635 645 645, fdc6 633 62e 64a, fdc7 646 62c 64a,
    fdf0 635 644 6d2, fdf1 642 644 6d2, fdf2 627 644 644 647, fdf3 627 643 628 631,
    fdf4 645 62d 645 62f, fdf5 635 644 639 645, fdf6 631 633 648 644, fdf7 639 644 64a 647,
    fdf8 648 633 644 645, fdf9 635 644 649,
    fdfa 635 644 649 20 627 644 644 647 20 639 644 64a 647 20 648 633 644 645,
    fdfb 62c 644 20 62c 644 627 644 647, fdfc 631 6cc 627 644, fe00-fe0f, fe10 2c, fe11 3001,
    fe13-fe14 3a, fe15 21, fe16 3f, fe17-fe18 3016, fe31 2014, fe32 2013, fe33 5f, fe34 5f,
    fe35-fe36 28, fe37 7b, fe38 7d, fe39-fe3a 3014, fe3b-fe3c 3010, fe3d-fe3e 300a,
    fe3f-fe40 3008, fe41-fe44 300c, fe47 5b, fe48 5d, fe49 20 305, fe4a 20 305, fe4b 20 305,
    fe4c 20 305, fe4d 5f, fe4e 5f, fe4f 5f, fe50 2c, fe51 3001, fe54 3b, fe55 3a, fe56 3f,
    fe57 21, fe58 2014, fe59-fe5a 28, fe5b 7b, fe5c 7d, fe5d-fe5e 3014, fe5f 23, fe60 26,
    fe61-fe62 2a, fe63 2d, fe64 3c, fe65 3e, fe66 3d, fe68 5c, fe69-fe6a 24, fe6b 40, fe70 20 64b,
    fe71 640 64b, fe72 20 64c, fe74 20 64d, fe76 20 64e, fe77 640 64e, fe78 20 64f, fe79 640 64f,
    fe7a 20 650, fe7b 640 650, fe7c 20 651, fe7d 640 651, fe7e 20 652, fe7f 640 652,
    fe80-fe81 621, fe82-fe83 622, fe84-fe85 623, fe86-fe87 624, fe88-fe89 625, fe8a 626, fe8b 626,
    fe8c-fe8d 626, fe8e-fe8f 627, fe90 628, fe91 628, fe92-fe93 628, fe94-fe95 629, fe96 62a,
    fe97 62a, fe98-fe99 62a, fe9a 62b, fe9b 62b, fe9c-fe9d 62b, fe9e 62c, fe9f 62c, fea0-fea1 62c,
    fea2 62d, fea3 62d, fea4-fea5 62d, fea6 62e, fea7 62e, fea8-fea9 62e, feaa-feab 62f,
    feac-fead 630, feae-feaf 631, feb0-feb1 632, feb2 633, feb3 633, feb4-feb5 633, feb6 634,
    feb7 634, feb8-feb9 634, feba 635, febb 635, febc-febd 635, febe 636, febf 636, fec0-fec1 636,
    fec2 637, fec3 637, fec4-fec5 637, fec6 638, fec7 638, fec8-fec9 638, feca 639, fecb 639,
    fecc-fecd 639, fece 63a, fecf 63a, fed0 63a, fed1 641, fed2 641, fed3 641, fed4-fed5 641,
    fed6 642, fed7 642, fed8-fed9 642, feda 643, fedb 643, fedc-fedd 643, fede 644, fedf 644,
    fee0-fee1 644, fee2 645, fee3 645, fee4-fee5 645, fee6 646, fee7 646, fee8-fee9 646, feea 647,
    feeb 647, feec-feed 647, feee-feef 648, fef0-fef1 649, fef2 64a, fef3 64a, fef4 64a,
    fef5 644 622, fef6 644 622, fef7 644 623, fef8 644 623, fef9 644 625, fefa 644 625,
    fefb 644 627, fefc 644 627, feff, ff01-ff20 21, ff21-ff3a 61, ff3b-ff5e 5b, ff5f-ff60 2985,
    ff61 2e, ff62-ff63 300c, ff64 3001, ff65 30fb, ff66 30f2, ff67 30a1, ff68 30a3, ff69 30a5,
    ff6a 30a7, ff6b 30a9, ff6c 30e3, ff6d 30e5, ff6e 30e7, ff6f 30c3, ff70 30fc, ff71 30a2,
    ff72 30a4, ff73 30a6, ff74 30a8, ff75-ff76 30aa, ff77 30ad, ff78 30af, ff79 30b1, ff7a 30b3,
    ff7b 30b5, ff7c 30b7, ff7d 30b9, ff7e 30bb, ff7f 30bd, ff80 30bf, ff81 30c1, ff82 30c4,
    ff83 30c6, ff84 30c8, ff85-ff8a 30ca, ff8b 30d2, ff8c 30d5, ff8d 30d8, ff8e 30db,
    ff8f-ff93 30de, ff94 30e4, ff95 30e6, ff96-ff9b 30e8, ff9c 30ef, ff9d 30f3, ff9e-ff9f 3099,
    ffa0, ffa1-ffa2 1100, ffa3 11aa, ffa4 1102, ffa5-ffa6 11ac, ffa7-ffa9 1103, ffaa-ffaf 11b0,
    ffb0 111a, ffb1-ffb3 1106, ffb4 1121, ffb5-ffbe 1109, ffc2-ffc7 1161, ffca-ffcf 1167,
    ffd2-ffd7 116d, ffda-ffdc 1173, ffe0-ffe1 a2, ffe2 ac, ffe3 20 304, ffe4 a6, ffe5 a5,
    ffe6 20a9, ffe8 2502, ffe9-ffec 2190, ffed 25a0, ffee 25cb"

end Rehearsal.Domain
