namespace SpriteStage.Number

/-- A node of the table: a point, its arc tangent, and the coefficients of a polynomial for the arc
    tangent near it, from the first power of the distance to the fifth. -/
structure ArcTangentNode where
  point : Float
  value : Float
  first : Float
  second : Float
  third : Float
  fourth : Float
  fifth : Float

/-- A node from the bits of its doubles. -/
def ArcTangentNode.ofBits (point value first second third fourth fifth : UInt64) : ArcTangentNode :=
  ⟨.ofBits point, .ofBits value, .ofBits first, .ofBits second, .ofBits third, .ofBits fourth,
    .ofBits fifth⟩

/-- The nodes, one close to each multiple of 1/256 from 16/256 to 256/256, the two at the ends a
    quarter of a step inside. A point is not the multiple itself but a neighbour whose arc tangent
    lies very near to a double, so that the value in the table is good to more places than it has.
    The coefficients from the second power on are fitted to the interval around the node. -/
def arcTangentNodes : Array ArcTangentNode := #[
  .ofBits 0x3fb0400665e0244e 0x3fb03a737b53dd20 0x3fefdf1fcf5cfb72
    0xbfb01eb3ce2ae4c2 0xbfd4d29edd58a40d 0x3fafda4ad907a18a 0x3fc814df4df65b18,
  .ofBits 0x3fb0fffdb9b88cd8 0x3fb0f99c63645300 0x3fefdc08a3ded30f
    0xbfb0d9dc669c1aed 0xbfd4c669f7138de2 0x3fb0a12f29d085a7 0x3fc7f0eecfd48d20,
  .ofBits 0x3fb1fff15a73d4f1 0x3fb1f85f2bee2040 0x3fefd7b342b56d31
    0xbfb1d2b7b69dea40 0xbfd4b5523922ecc9 0x3fb18f93522b1a04 0x3fc7bead5660f061,
  .ofBits 0x3fb2fffdb2524aa2 0x3fb2f716e71790a0 0x3fefd31f53b496a4
    0xbfb2cad84aab7374 0xbfd4a34b58dd2fb2 0x3fb27c0ad0cecc18 0x3fc789d25d2743d7,
  .ofBits 0x3fb3fffe0573f3ac 0x3fb3f59d1702f6a0 0x3fefce4db071acc2
    0xbfb3c20f64db3686 0xbfd49059eb3bfe93 0x3fb36659caf74fed 0x3fc752691c011fb0,
  .ofBits 0x3fb4ffef894384d6 0x3fb4f3ed0ce204c0 0x3fefc93ea8ea5a01
    0xbfb4b84f7b5457c9 0xbfd47c807401f2f9 0x3fb44e64b4f67209 0x3fc7187d4c540b77,
  .ofBits 0x3fb5fff8df406528 0x3fb5f22b3c73d820 0x3fefc3f1b1f60f13
    0xbfb5adb2cb7fa73b 0xbfd467be2b1eb555 0x3fb5343599edc463 0x3fc6dc1b238f5059,
  .ofBits 0x3fb7000f8c4f0d56 0x3fb6f04b495a2fa0 0x3fefbe67340dce97
    0xbfb6a2244d98e1ad 0xbfd4521614064df1 0x3fb617aa2ba78a66 0x3fc69d4f50a3d7ac,
  .ofBits 0x3fb8000fbb4057cf 0x3fb7ee27be2cd3a0 0x3fefb8a039ec9246
    0xbfb7957731d9c773 0xbfd43b8db6dc7d72 0x3fb6f88ad69547df 0x3fc65c26f633ce8c,
  .ofBits 0x3fb8fff239cf2b7f 0x3fb8ebb79f979e80 0x3fefb29d435506e1
    0xbfb8879a69b9cdb5 0xbfd4242885feafa9 0x3fb7d6bab6191a0e 0x3fc618afa7cb8bb5,
  .ofBits 0x3fb9fff96e2f0772 0x3fb9e93ad32a9480 0x3fefac5d04a3ec40
    0xbfb978c253f6ea97 0xbfd40be3089c36f6 0x3fb8b25c885aeb77 0x3fc5d2f763cadce1,
  .ofBits 0x3fbb00026316b097 0x3fbae68cce24cc00 0x3fefa5e0938c5c66
    0xbfba68c376f14e4b 0xbfd3f2c31696cd7c 0x3fb98b3b722a2cb4 0x3fc58b0c9067ad62,
  .ofBits 0x3fbc0008604f58b1 0x3fbbe3a705650780 0x3fef9f285a7a2773
    0xbfbb578f3d5ac0a4 0xbfd3d8cbf767119f 0x3fba613dc7e31b88 0x3fc540fdf5594565,
  .ofBits 0x3fbd00026cca4eba 0x3fbce07ec1298a80 0x3fef9834e8d36c4a
    0xbfbc45135bcac5fe 0xbfd3be018b5236f1 0x3fbb34472e991970 0x3fc4f4dab8adb373,
  .ofBits 0x3fbdfff4b2b47fca 0x3fbddd164a051d80 0x3fef910678dcc895
    0xbfbd3149f0966844 0xbfd3a266744f9a5f 0x3fbc0446edb7f27a 0x3fc4a6b2583f9eca,
  .ofBits 0x3fbf000aa9a05be0 0x3fbed996a3bda540 0x3fef899c1b8ba97f
    0xbfbe1c512287a677 0xbfd385f8edc130bb 0x3fbcd14bf306ff50 0x3fc45694a667a72b,
  .ofBits 0x3fbffffaba8f63de 0x3fbfd5b569fe4780 0x3fef81f84863dc7d
    0xbfbf05dbd1518706 0xbfd368c44687a69c 0x3fbd9b081b3868da 0x3fc40491c345adfc,
  .ofBits 0x3fc07ffa6eccada8 0x3fc068d00a396400 0x3fef7a19f1fcfc6b
    0xbfbfee0c861df0df 0xbfd34ac65a586c0c 0x3fbe618f189d637a 0x3fc3b0ba195779d4,
  .ofBits 0x3fc1000333432713 0x3fc0e6b0f203d1a0 0x3fef7200fe0eb463
    0xbfc06a72e15cb19a 0xbfd32c00b8db761e 0x3fbf24d8a11f5e3e 0x3fc35b1e569e85dd,
  .ofBits 0x3fc17ffcda1c4811 0x3fc1646229ebda00 0x3fef69af7d558737
    0xbfc0dd170b33969b 0xbfd30c7d33ac50d1 0x3fbfe4aa9be43f0f 0x3fc303cf692539cb,
  .ofBits 0x3fc1ffff3cca418d 0x3fc1e1fa3b978ea0 0x3fef612445d421a9
    0xbfc14f03acac8aa8 0xbfd2ec3962e675a3 0x3fc0508c2fa6b426 0x3fc2aade780a6467,
  .ofBits 0x3fc27ff7d9c78922 0x3fc25f661b91e640 0x3fef5860f52e192c
    0xbfc1c023e5de2394 0xbfd2cb3d6bee0abd 0x3fc0acfb5e075c1a 0x3fc2505cdffe453a,
  .ofBits 0x3fc2fff7a1fc1aaa 0x3fc2dcb583257c40 0x3fef4f64c719b6fb
    0xbfc2308261514083 0xbfd2a9887f7b72d5 0x3fc107a77c887402 0x3fc1f45c2c3cd6d1,
  .ofBits 0x3fc380059d78e15e 0x3fc359ee6ac98ee0 0x3fef462f944cec16
    0xbfc2a020d85b87a9 0xbfd2871c2e4ab369 0x3fc1608dc31a65d9 0x3fc196ee130bbe50,
  .ofBits 0x3fc400049f431b1a 0x3fc3d6f36bd65360 0x3fef3cc3dd99b68a
    0xbfc30ee1b3dd00ed 0xbfd26403f8482664 0x3fc1b792fe136626 0x3fc138246eac7440,
  .ofBits 0x3fc48004e01d95a1 0x3fc453d386f00cc0 0x3fef3320e3970539
    0xbfc37ccf0a5279aa 0xbfd2403f3b151d5d 0x3fc20cbbe331c9e6 0x3fc0d81139e3f097,
  .ofBits 0x3fc4fff7aa9382dd 0x3fc4d07f8c590a80 0x3fef294834df28e0
    0xbfc3e9d85b43915c 0xbfd21bd5eb8845a2 0x3fc25ff8ac6ac8ad 0x3fc076c688ed96ca,
  .ofBits 0x3fc58006352408be 0x3fc54d1ec39a73e0 0x3fef1f3709ae009c
    0xbfc4561cb9be8550 0xbfd1f6c00053f52e 0x3fc2b15def783be9 0x3fc014568615239b,
  .ofBits 0x3fc5ffff2b193f81 0x3fc5c9804f73e000 0x3fef14f1ae110e29
    0xbfc4c16e9098b3d2 0xbfd1d10f8f058241 0x3fc300c6a14fa897 0x3fbf61a6d56607c0,
  .ofBits 0x3fc680084460e6e1 0x3fc645c804a55e20 0x3fef0a758fa36ec5
    0xbfc52be9d62fa883 0xbfd1aabd69a74048 0x3fc34e451679eb02 0x3fbe989ef7c14c3d,
  .ofBits 0x3fc6fffb9e99a846 0x3fc6c1d04b35fd40 0x3feeffc63ef8ef95
    0xbfc5956b76a2fe63 0xbfd183d8ddc78ddf 0x3fc399bdac606d66 0x3fbdcdba070d286a,
  .ofBits 0x3fc780080ffcd490 0x3fc73dc5b55758e0 0x3feef4e0457e2065
    0xbfc5fe167d6ff9bc 0xbfd15c579fadd384 0x3fc3e34773e52d32 0x3fbd011c9a65ae4b,
  .ofBits 0x3fc80006148e79c1 0x3fc7b9812b7f8ca0 0x3feee9c7701687ed
    0xbfc665c70e1ef36d 0xbfd13449ccbcbdab 0x3fc42ac75c71b3e8 0x3fbc32eb3e81980e,
  .ofBits 0x3fc880060f487c17 0x3fc83511bc0e3640 0x3feede7ad2d55329
    0xbfc6cc8737e644ba 0xbfd10bae60597557 0x3fc4704313e26fbe 0x3fbb634a6fb18bf4,
  .ofBits 0x3fc90004d3518d76 0x3fc8b0738874c100 0x3feed2fb2ed6673b
    0xbfc732512a6ebac3 0xbfd0e28a6924232f 0x3fc4b3b573bcc03f 0x3fba925e8c72507f,
  .ofBits 0x3fc97fffd2f20d5c 0x3fc92ba351af5920 0x3feec7493d32449f
    0xbfc7971fc308255f 0xbfd0b8e2d572d28f 0x3fc4f51a337448fe 0x3fb9c04bcfcbc620,
  .ofBits 0x3fca0005bf80f060 0x3fc9a6ae6e9e8960 0x3feebb641ef200e7
    0xbfc7fafb6e96e5c1 0xbfd08eb6ec6ad647 0x3fc53475f53d0ba6 0x3fb8ed364433c20e,
  .ofBits 0x3fca7ff7deeca8e4 0x3fca2176948578e0 0x3feeaf4f328ff98b
    0xbfc85dc958149b1c 0xbfd06414f933a1ab 0x3fc571b760c45a8f 0x3fb81941be58c308,
  .ofBits 0x3fcaffff7defd553 0x3fca9c229eba6b80 0x3feea30710a85e10
    0xbfc8bfa67f9dea61 0xbfd038f35a474e8f 0x3fc5acf030c225d2 0x3fb74491d062812f,
  .ofBits 0x3fcb7ffe669932a5 0x3fcb1694cff6dfe0 0x3fee968f1921d387
    0xbfc92078e075d95a 0xbfd00d60526793c4 0x3fc5e61073842a52 0x3fb66f49c5331d5a,
  .ofBits 0x3fcbfff9b44759f3 0x3fcb90d15073a2a0 0x3fee89e756598313
    0xbfc98041cfb9203d 0xbfcfc2bcbed91b37 0x3fc61d196d4fc2fc 0x3fb5998c9411537e,
  .ofBits 0x3fcc80075568f3ec 0x3fcc0aec4a31dbe0 0x3fee7d0e18f270a8
    0xbfc9df0ef522b132 0xbfcf69d42179c242 0x3fc6521336646fcd 0x3fb4c37cdc699095,
  .ofBits 0x3fccfff8601a799f 0x3fcc84b849db66a0 0x3fee7008a0ee780e
    0xbfca3cbb3a403934 0xbfcf102fd490be32 0x3fc684ea037d4137 0x3fb3ed3cd9ec855a,
  .ofBits 0x3fcd7ff97bbf1497 0x3fccfe5f1e008ce0 0x3fee62d2f04615c7
    0xbfca996515aade2c 0xbfceb5b90b44b682 0x3fc6b5af92ec8d57 0x3fb316ee60d831ae,
  .ofBits 0x3fce000840209b20 0x3fcd77ddb145a760 0x3fee556dbe1dfdf1
    0xbfcaf5082186af0f 0xbfce5a799420489d 0x3fc6e462454feb2c 0x3fb240b2d2945a8c,
  .ofBits 0x3fce8000c0ae943c 0x3fcdf1113ca10100 0x3fee47dd59e7308b
    0xbfcb4f889439f69f 0xbfcdfe93798de600 0x3fc710f58f267389 0x3fb16aab1a8a373e,
  .ofBits 0x3fcf00036d532803 0x3fce6a17cb4e5c80 0x3fee3a1ee3d0f6c2
    0xbfcba8fb6e31f768 0xbfcda1f7e6a382e3 0x3fc73b75b36ac4c0 0x3fb094f7a3470b0a,
  .ofBits 0x3fcf7ffa48b8afc3 0x3fcee2dbe1654560 0x3fee2c3543f2ab37
    0xbfcc014f598207d6 0xbfcd44bf1efe809a 0x3fc763dc698a561e 0x3faf7f70a7cf78a3,
  .ofBits 0x3fd00002eb334fae 0x3fcf5b7b77ab25e0 0x3fee1e1d78a5c127
    0xbfcc5898c555d571 0xbfcce6d9b706cf86 0x3fc78a350823f643 0x3fadd6190b9118e8,
  .ofBits 0x3fd03ffca8af86fe 0x3fcfd3cbb53a0c00 0x3fee0fdcfdcbac8b
    0xbfccaeb76c3246ff 0xbfcc8870d6e19ad3 0x3fc7ae73d2c48e91 0x3fac2e260510fdb0,
  .ofBits 0x3fd07ffcd38984b7 0x3fd025f75732d4a0 0x3fee017049c17ab3
    0xbfcd03c29afe5028 0xbfcc29719a2c1833 0x3fc7d0a569041dcf 0x3faa87d3f497c653,
  .ofBits 0x3fd0bfff1ed2add7 0x3fd061edcd7f7420 0x3fedf2d8da96b750
    0xbfcd57b2c777881e 0xbfcbc9ea8692b503 0x3fc7f0c942abf9e7 0x3fa8e35e04b42bb4,
  .ofBits 0x3fd10003a8515cda 0x3fd09dc9027416a0 0x3fede41734899950
    0xbfcdaa867983ede4 0xbfcb69e3999706b6 0x3fc80ee1b0f126db 0x3fa740fe17ee9bab,
  .ofBits 0x3fd14001f3af9cc5 0x3fd0d980b6e1aba0 0x3fedd52de0412681
    0xbfcdfc316863b28b 0xbfcb0971c55b8d5a 0x3fc82aeda6731aac 0x3fa5a0ecc73bd8f0,
  .ofBits 0x3fd18003b6122509 0x3fd1151daa1e67a0 0x3fedc61b2e0c1f32
    0xbfce4cbeb9ba6b7e 0xbfcaa88e90c2431c 0x3fc844f48bcbda5e 0x3fa4036150e585ff,
  .ofBits 0x3fd1bfffa6a2a153 0x3fd15096e7a18dc0 0x3fedb6e1e1218f3f
    0xbfce9c219621d6a2 0xbfca475022627b04 0x3fc85cf5ff8b908e 0x3fa268919833c0d6,
  .ofBits 0x3fd1fffd2d345aaf 0x3fd18bf3053bf760 0x3feda780cc3acb29
    0xbfceea622aa756ae 0xbfc9e5b347ed9793 0x3fc872f887ab542a 0x3fa0d0b2158e9e9a,
  .ofBits 0x3fd23ffcf14cf05a 0x3fd1c7324d568460 0x3fed97f855f32d3d
    0xbfcf378021d457c8 0xbfc983bef065b845 0x3fc886fffba70cd8 0x3f9e77ebaeb85ccc,
  .ofBits 0x3fd27ffe0bae6fc9 0x3fd202539a27c160 0x3fed88494619176e
    0xbfcf83795c0ac9ec 0xbfc9217c5e645195 0x3fc8990ff4264515 0x3f9b551ce6b92e65,
  .ofBits 0x3fd2c001a297a7de 0x3fd23d57acb927c0 0x3fed7873e4958fb6
    0xbfcfce4e43572249 0xbfc8bef19f3560f3 0x3fc8a92cdf7f0e5b 0x3f983958116f3b19,
  .ofBits 0x3fd2fffe7267616a 0x3fd27835b2f378c0 0x3fed687b13906586
    0xbfd00bf9afda1a0f 0xbfc85c34c197ad7d 0x3fc8b7591e99f0a7 0x3f9524fa6525c365,
  .ofBits 0x3fd33ffe48153b20 0x3fd2b2f66a2fdcc0 0x3fed585cf827fbe4
    0xbfd03039b45a6918 0xbfc7f93e5dfc3f72 0x3fc8c39bc5210022 0x3f92185e168fb62e,
  .ofBits 0x3fd380038122579a 0x3fd2ed9baf6ec1e0 0x3fed4819872f20d3
    0xbfd053e81f4c1031 0xbfc79612621ffd79 0x3fc8cdf9db9d9dfc 0x3f8e27b480c6852f,
  .ofBits 0x3fd3c0033ef39141 0x3fd3281b4668c700 0x3fed37b418590d1a
    0xbfd076fea3ef2560 0xbfc732c93033287a 0x3fc8d676ca2e5458 0x3f882f85d80944b1,
  .ofBits 0x3fd4000163fa0e31 0x3fd362787b565000 0x3fed272c47a813da
    0xbfd0997f493b9d88 0xbfc6cf643da9fe3c 0x3fc8dd18c1cd3331 0x3f8248d1f70f6e07,
  .ofBits 0x3fd4400374071092 0x3fd39cb80f0a4000 0x3fed16813ba47a6b
    0xbfd0bb6cd8788947 0xbfc66be2589596a6 0x3fc8e1e5c9b3ec1e 0x3f78e868d20fab86,
  .ofBits 0x3fd48000c880f200 0x3fd3d6d1deffb460 0x3fed05b5cadc576c
    0xbfd0dcc2a1d352c2 0xbfc608583d7d2574 0x3fc8e4e303208bc0 0x3f6ac9096379e732,
  .ofBits 0x3fd4c0004d97d2cb 0x3fd410cbf3a2e220 0x3fecf4c8bb7ed511
    0xbfd0fd8437766a49 0xbfc5a4c25aabc13c 0x3fc8e616c80dac4b 0x3f4038aab04695c2,
  .ofBits 0x3fd4fffd9397539f 0x3fd44aa206a7dec0 0x3fece3bbcf479dde
    0xbfd11daf4d122984 0xbfc5412eb1024df0 0x3fc8e5871b2c560d 0xbf625da8951c088d,
  .ofBits 0x3fd53ffff304715f 0x3fd4845a791f3900 0x3fecd28da45e0fd8
    0xbfd13d478d61f221 0xbfc4dd98d3e9bb99 0x3fc8e33a0f181507 0xbf743c33d08bd25c,
  .ofBits 0x3fd58002e88ea386 0x3fd4bdf0f575d6c0 0x3fecc14002035609
    0xbfd15c4ab808071e 0xbfc47a0eb2945fcf 0x3fc8df35fc056447 0xbf7f2011b00a45cd,
  .ofBits 0x3fd5bffd70f4d590 0x3fd4f75d284d7ae0 0x3fecafd5f2de98b6
    0xbfd17ab4a2b42f42 0xbfc416a51c285a92 0x3fc8d982511d6c5a 0xbf84ecc177008605,
  .ofBits 0x3fd5fffdb70d6e53 0x3fd530ab8e2ff500 0x3fec9e4c32d2429d
    0xbfd1988c35190681 0xbfc3b34cbf748319 0x3fc8d22498d3a613 0xbf8a33d4aa295f9f,
  .ofBits 0x3fd63ffc5c7399e2 0x3fd569d54f022e80 0x3fec8ca558dd180f
    0xbfd1b5ce1d701de4 0xbfc35017a7806a5a 0x3fc8c92456c01cf9 0xbf8f64d9942059e1,
  .ofBits 0x3fd67ffd9a1ac7d2 0x3fd5a2ddf50031e0 0x3fec7ae0ceff6deb
    0xbfd1d27c7c8c245b 0xbfc2ed05c6aa933f 0x3fc8be87ddc5cf1f 0xbf923fb6d594386f,
  .ofBits 0x3fd6bffd6f7b9353 0x3fd5dbc1b4e066c0 0x3fec6900456b591a
    0xbfd1ee95c2d6d0aa 0xbfc28a23b11086f7 0x3fc8b256dde22d5a 0xbf94c19a489d85a4,
  .ofBits 0x3fd6fffbf02a83e4 0x3fd614806a237dc0 0x3fec57044cc81773
    0xbfd20a1a4b9029ca 0xbfc2277789f5fb1c 0x3fc8a4989b09e911 0xbf9737ec130d419a,
  .ofBits 0x3fd73ffe128c213a 0x3fd64d1e42499480 0x3fec44ec129c0d30
    0xbfd2250c83787259 0xbfc1c4ffd55be4fc 0x3fc8955336b2d603 0xbf99a2842e43df46,
  .ofBits 0x3fd77ffbea0cdc7a 0x3fd6859405b0e220 0x3fec32ba687132c0
    0xbfd23f697273497e 0xbfc162cecd39b037 0x3fc8848ffa930aaf 0xbf9c013da4554412,
  .ofBits 0x3fd7c003f18edab8 0x3fd6bdee4127bee0 0x3fec206bc01607bd
    0xbfd259375fee2f42 0xbfc100d4307761e1 0x3fc872525dfec556 0xbf9e53f67958f973,
  .ofBits 0x3fd7fffd41f35c4c 0x3fd6f616da6607a0 0x3fec0e07cddc8437
    0xbfd2726cbfb4daea 0xbfc09f3be0db1472 0x3fc85ea92a95aa1b 0xbfa04d47d872cfa2,
  .ofBits 0x3fd8400326c7c46b 0x3fd72e2596b8be00 0x3febfb874cdedf38
    0xbfd28b14d09404f3 0xbfc03de1e7fb61f2 0x3fc84993acb33be9 0xbfa16a769b1de607,
  .ofBits 0x3fd88003ca90b179 0x3fd7660aa104a220 0x3febe8eff236e2f6
    0xbfd2a32919a94ddf 0xbfbfb9ce0856a081 0x3fc8331f33f70280 0xbfa2817af01308cc,
  .ofBits 0x3fd8c003e9692fd5 0x3fd79dc9f0b2cb00 0x3febd640f2966495
    0xbfd2baabfd6ec2ea 0xbfbef892e08e9c2d 0x3fc81b52031873e3 0xbfa39249ac12113d,
  .ofBits 0x3fd8fffe35be5c5f 0x3fd7d55ebdccdfc0 0x3febc37c6eabcf77
    0xbfd2d19c2d74f445 0xbfbe382ce63f2cdb 0x3fc802360e6fe2ae 0xbfa49cd90e66ab41,
  .ofBits 0x3fd94002aa8974cd 0x3fd80cd6b8afd880 0x3febb09e4468ccba
    0xbfd2e7ffec84e686 0xbfbd787688c659e8 0x3fc7e7ccc2f15460 0xbfa5a120b410d3ed,
  .ofBits 0x3fd98002e08efdea 0x3fd8442534856920 0x3feb9dab3f290478
    0xbfd2fdd2bb81edef 0xbfbcb9a531e68398 0x3fc7cc23c2dbb11b 0xbfa69f1998467e78,
  .ofBits 0x3fd9c00275294b6b 0x3fd87b4d299f6200 0x3feb8aa2de96cf1f
    0xbfd313168c4d45d2 0xbfbbfbb7edce4dba 0x3fc7af418907fec9 0xbfa796be07419f55,
  .ofBits 0x3fda0002f3e490ec 0x3fd8b24fc21a4500 0x3feb77853b5ef7dd
    0xbfd327cc8eae70cd 0xbfbb3eb3d49e40da 0x3fc7912d4d93f7ea 0xbfa888099e21606a,
  .ofBits 0x3fda3fff458461b6 0x3fd8e9287754d2c0 0x3feb64546a0daf0e
    0xbfd33bf3dc2a9a3f 0xbfba82b14917d003 0x3fc771f17c7566cf 0xbfa972f93d700dd8,
  .ofBits 0x3fda800287e12aae 0x3fd91fe0a5dfd000 0x3feb510da0d82e05
    0xbfd34f90a76ad312 0xbfb9c798deec35ad 0x3fc751908a0ef43e 0xbfaa578b0872efc8,
  .ofBits 0x3fdac00149a86c84 0x3fd9566e5c4516e0 0x3feb3db4dd03f6b6
    0xbfd362a0291c1f82 0xbfb90d9503f6df60 0x3fc7301825091e92 0xbfab35be577a022b,
  .ofBits 0x3fdaffff2f4cc2e1 0x3fd98cd494226540 0x3feb2a499297200a
    0xbfd375245153fd01 0xbfb854a3ae3de27e 0x3fc70d8e7eb3f331 0xbfac0d93b6ad570e,
  .ofBits 0x3fdb4000c2f3711e 0x3fd9c31701cdc4c0 0x3feb16caea63781b
    0xbfd3871f3665b649 0xbfb79cc03f70fbc6 0x3fc6e9f9061dfc2e 0xbfacdf0cd837f9c3,
  .ofBits 0x3fdb8000a777e180 0x3fd9f930f3748f20 0x3feb033b0fb0162a
    0xbfd3989025978cab 0xbfb6e6025c765aab 0x3fc6c5629c16d678 0xbfadaa2c92a16ebf,
  .ofBits 0x3fdbbffd087e14ed 0x3fda2f20bf0ddb00 0x3feaef9b1cce6e94
    0xbfd3a9778b73e3c3 0xbfb6307709efd1cc 0x3fc69fd458408d3a 0xbfae6ef6d2e48013,
  .ofBits 0x3fdc0000f0086783 0x3fda64ef8d448080 0x3feadbe835990b5a
    0xbfd3b9d927241b86 0xbfb57c06c20e4001 0x3fc6794f90e6c8ab 0xbfaf2d709a630a27,
  .ofBits 0x3fdc4001863e58f8 0x3fda9a941c3a1ba0 0x3feac82635ed7dd2
    0xbfd3c9b30c075b50 0xbfb4c8d7a429793c 0x3fc651e295903c22 0xbfafe59ff0f8b649,
  .ofBits 0x3fdc7ffc6c62c3bf 0x3fdad00c580a5840 0x3feab45662d1d808
    0xbfd3d905acbb06ec 0xbfb416f7421e42dc 0x3fc62996e5608efd 0xbfb04bc5f14b649a,
  .ofBits 0x3fdcc00234b2a209 0x3fdb0565f68f3b40 0x3feaa0741e3dc946
    0xbfd3e7d5e2db674e 0xbfb3663ea4833ffe 0x3fc60069c4f0392b 0xbfb0a19e38b10201,
  .ofBits 0x3fdcfffcaac5f9f9 0x3fdb3a8e59c45cc0 0x3fea8c86d2389c24
    0xbfd3f61f8362b2cb 0xbfb2b6f1c6c746a6 0x3fc5d671426d2946 0xbfb0f45d4981ce75,
  .ofBits 0x3fdd40040d800c64 0x3fdb6f9988af6580 0x3fea78877498ced2
    0xbfd403e8ef8975c0 0xbfb208d4bea81e2b 0x3fc5aba5283ffa4e 0xbfb1440811705130,
  .ofBits 0x3fdd7ffeb0e64500 0x3fdba4722324e140 0x3fea647e8c5ad680
    0xbfd4112da03f042d 0xbfb15c339580389c 0x3fc5801e49d9889e 0xbfb190a3ef96554f,
  .ofBits 0x3fddbffe2dfcf4eb 0x3fdbd9269f1d27a0 0x3fea50671ac286ca
    0xbfd41df2590a4de1 0xbfb0b0e48bd1efa5 0x3fc553d8702506d0 0xbfb1da36ada415a6,
  .ofBits 0x3fddfffd8a34bbc2 0x3fdc0db2c4f7a2c0 0x3fea3c432ef70bb3
    0xbfd42a3716ee647c 0xbfb006fadb6270bb 0x3fc526de86f08de6 0xbfb220c67e5061fb,
  .ofBits 0x3fde3ffdd26415c0 0x3fdc421758282940 0x3fea2812f391ddcb
    0xbfd435fd18eddf0a 0xbfaebcf288a589af 0x3fc4f9374cf96163 0xbfb26459f6a18481,
  .ofBits 0x3fde7fff37f72672 0x3fdc765467aa3dc0 0x3fea13d6d6ce86b3
    0xbfd4414574037e91 0xbfad6ec93b2cc445 0x3fc4caea0564f101 0xbfb2a4f80c49cd64,
  .ofBits 0x3fdebffda11bc00f 0x3fdcaa6685e23660 0x3fe9ff90a25c2396
    0xbfd44c108a64724f 0xbfac23992f871e82 0x3fc49c010afbfb85 0xbfb2e2a80f0ff3fe,
  .ofBits 0x3fdeffff3313756d 0x3fdcde529d30cc20 0x3fe9eb3edff9491f
    0xbfd456607e6abaae 0xbfaadb4c3e8aa98d 0x3fc46c7f25d8ff7d 0xbfb31d71a71d448d,
  .ofBits 0x3fdf4001914b856e 0x3fdd1216aac1bb20 0x3fe9d6e2c9bc4315
    0xbfd46036004e7e91 0xbfa995f7fb901f89 0x3fc43c6d3f5be04a 0xbfb3555cce8abf92,
  .ofBits 0x3fdf8003cd144428 0x3fdd45b1d93e9640 0x3fe9c27d256fdfeb
    0xbfd4699209f7c145 0xbfa853a9ed521174 0x3fc40bd32b27751f 0xbfb38a71cfa5c5f2,
  .ofBits 0x3fdfc00200545bd9 0x3fdd7920f536d960 0x3fe9ae0faae99ea5
    0xbfd4727538dd66f4 0xbfa7147db5484f74 0x3fc3dabaf8efc373 0xbfb3bcb93ea6b864,
  .ofBits 0x3fdffffbda6f2aa8 0x3fddac63b420faa0 0x3fe9999aed4d0cab
    0xbfd47ae0bfcc6072 0xbfa5d87c25bf7a4a 0x3fc3a92bf5999ee5 0xbfb3ec3bf7f09d08,
  .ofBits 0x3fe01fffa65118c8 0x3fdddf852bf70c00 0x3fe9851aecd72ae5
    0xbfd482d78f5794c5 0xbfa49f682e4a020b 0x3fc3772225a156da 0xbfb4190319f58064,
  .ofBits 0x3fe040019c0b0556 0x3fde127dfa2ba200 0x3fe9709308c17a55
    0xbfd48a59957a7efd 0xbfa369762648f2bb 0x3fc344ab592569b1 0xbfb4431803752ddb,
  .ofBits 0x3fe05fffc24501db 0x3fde4547a495bcc0 0x3fe95c064f225b79
    0xbfd491672163f5b8 0xbfa236d34b79b89f 0x3fc311d4b530b7be 0xbfb46a844d931476,
  .ofBits 0x3fe07ffe865125fc 0x3fde77e92a5fad60 0x3fe947725c13b0ea
    0xbfd498026f33abca 0xbfa1075ade947c6b 0x3fc2de9dd8d5e01b 0xbfb48f51ca17ca60,
  .ofBits 0x3fe0a002107eac25 0x3fdeaa6908243180 0x3fe932d4f339824b
    0xbfd49e2d7145f475 0xbf9fb5d800571424 0x3fc2ab0685d1cf84 0xbfb4b18a7dbbbabe,
  .ofBits 0x3fe0bfff7376e5d4 0x3fdedcb5f79ff560 0x3fe91e358ee1b492
    0xbfd4a3e749498453 0xbf9d63e4be685c6f 0x3fc27726c4b1f032 0xbfb4d1389e6ecc3a,
  .ofBits 0x3fe0dffe1715ee2e 0x3fdf0edb9be1bb80 0x3fe9098fd993bd60
    0xbfd4a9329b84e907 0xbf9b185ae07dba5e 0x3fc242f8f2d7a804 0xbfb4ee668ddaa340,
  .ofBits 0x3fe100017f3d776c 0x3fdf40df6119e100 0x3fe8f4e1fb44bcfb
    0xbfd4ae1116e3467e 0xbf98d304cf368422 0x3fc20e7d736708ae 0xbfb5091ed7b3658d,
  .ofBits 0x3fe11ffefd8c7b65 0x3fdf72b08fd21560 0x3fe8e0334770fb0a
    0xbfd4b2825c0f6783 0xbf9694ac7ffe0364 0x3fc1d9cbe529bf4c 0xbfb5216c2c73e5f0,
  .ofBits 0x3fe14000afa3ee71 0x3fdfa45ee3324d60 0x3fe8cb7d9ff684df
    0xbfd4b68917add34d 0xbf945ca367276e70 0x3fc1a4d9a1fbf3b1 0xbfb537595fba2374,
  .ofBits 0x3fe15fff73336187 0x3fdfd5df3de48d00 0x3fe8b6c60cbe3546
    0xbfd4ba259b291bcb 0xbf922b6f5fb712cc 0x3fc16fb855e28b0b 0xbfb54af1633f423c,
  .ofBits 0x3fe17fff6c447b82 0x3fe0039c0208ecc0 0x3fe8a20a48f15926
    0xbfd4bd59a5808ac3 0xbf9000cd5eef6f2a 0x3fc13a66ebe54aa7 0xbfb55c3f45420ce4,
  .ofBits 0x3fe19fffae932b61 0x3fe01c33e0091bc0 0x3fe88d4b55664e00
    0xbfd4c026579f5abb 0xbf8bb9a68797c32a 0x3fc104ec95d4f64e 0xbfb56b4e2bbc325e,
  .ofBits 0x3fe1bfffba12ae50 0x3fe034b6d3aba020 0x3fe87889ebdccf04
    0xbfd4c28ce6d463c1 0xbf877f1cb36211fc 0x3fc0cf4fb90b11e7 0xbfb5782952dcbe1a,
  .ofBits 0x3fe1e0014b459e41 0x3fe04d262dc05800 0x3fe863c551625b6a
    0xbfd4c48eaffdd399 0xbf8351cb603059ca 0x3fc09992de65d0d9 0xbfb582dc087bb367,
  .ofBits 0x3fe2000032306f33 0x3fe0657ebafb6ce0 0x3fe84f00a1e2eec3
    0xbfd4c62cb79ec8c6 0xbf7e6488d95de8d1 0x3fc063c2661df241 0xbfb58b71aaa63bad,
  .ofBits 0x3fe22000d30a486c 0x3fe07dc3d2165080 0x3fe83a3966b3e5bf
    0xbfd4c7687de04dee 0xbf763ff7800f052f 0x3fc02ddc28f35edd 0xbfb591f5a351cf91,
  .ofBits 0x3fe23ffe215e03fc 0x3fe095f19f380a00 0x3fe8257348be5f3f
    0xbfd4c8431b793f77 0xbf6c6e63625993b8 0x3fbfefdb8c5e4b3b 0xbfb5967366fe9ca7,
  .ofBits 0x3fe260006833d65d 0x3fe0ae0e6496a8c0 0x3fe810a945b44aa3
    0xbfd4c8be055b407a 0xbf5920a7ae83f0a4 0x3fbf83dc860a6a5e 0xbfb598f670d98ee7,
  .ofBits 0x3fe28000e82d4d50 0x3fe0c615095f5300 0x3fe7fbe01e9337b7
    0xbfd4c8da573c6f6a 0x3f38b6c7c50f565d 0x3fbf17dbc9c4b6ca 0xbfb5998a45d6dae0,
  .ofBits 0x3fe29fff203b6a0b 0x3fe0de0530852720 0x3fe7e7188520538d
    0xbfd4c899668c6963 0x3f6286ecbeca8ab0 0x3fbeabe49b6ac5bd 0xbfb5983a575a9684,
  .ofBits 0x3fe2c001e91a9d93 0x3fe0f5e3f7817a20 0x3fe7d24e63a45d97
    0xbfd4c7fc5f83c46d 0x3f70e1995d9c800a 0x3fbe3fe93721a8e0 0xbfb59512377da840,
  .ofBits 0x3fe2dfffc6fb4948 0x3fe10daa4ce36040 0x3fe7bd883e39011f
    0xbfd4c704b5eae11f 0x3f786398192c622b 0x3fbdd412b62ba357 0xbfb5901d5f0e020e,
  .ofBits 0x3fe2ffff39cb4eed 0x3fe1255d0970ad60 0x3fe7a8c2365b7a9b
    0xbfd4c5b38925f532 0x3f7fcb03785e3070 0x3fbd68540eedf3b3 0xbfb58967479c252a,
  .ofBits 0x3fe31ffe002e31cb 0x3fe13cfa81fd3780 0x3fe793fe1bbe9667
    0xbfd4c40a3046f4c7 0x3f838bae8f5e6bf1 0x3fbcfcbd83775c98 0xbfb580fb62e887ab,
  .ofBits 0x3fe34000edc7bffd 0x3fe1548644d05200 0x3fe77f39244a1da5
    0xbfd4c2099fb764c1 0x3f8724e2851b0be5 0x3fbc9147507c76e0 0xbfb576e519c7f0ab,
  .ofBits 0x3fe36001ce042830 0x3fe16bfbc1656ae0 0x3fe76a77ad3b2b77
    0xbfd4bfb374aac296 0x3f8ab07005b229c2 0x3fbc260e87dca54b 0xbfb56b2fc90df763,
  .ofBits 0x3fe37ffe89b8fc54 0x3fe1835977d0ba80 0x3fe755bb660caa3d
    0xbfd4bd09308bb975 0x3f8e2e26fe0a1240 0x3fbbbb2218790f26 0xbfb55de6c094f3da,
  .ofBits 0x3fe3a0019b4da842 0x3fe19aa7100cd140 0x3fe740fdd801f889
    0xbfd4ba0b2c32c656 0x3f90cf998eca44a2 0x3fbb5066c9863443 0xbfb54f15406672b5,
  .ofBits 0x3fe3c000ce6b63e8 0x3fe1b1dd1d0b0ae0 0x3fe72c45f28670e6
    0xbfd4b6bb92422e2e 0x3f928141a0d32146 0x3fbae60637452321 0xbfb53ec677d91f56,
  .ofBits 0x3fe3dfff114a2607 0x3fe1c8fdc6ff6f20 0x3fe71792206847a7
    0xbfd4b31b669bd306 0x3f942c3a04ffd28a 0x3fba7bfde7fc0825 0xbfb52d0582f471ba,
  .ofBits 0x3fe3ffffc1da9b7d 0x3fe1e00b7f2e8840 0x3fe702e084371133
    0xbfd4af2b8012fbe4 0x3f95d0b4bfc47f4b 0x3fba1249d80ab6c5 0xbfb519dd69a4108d,
  .ofBits 0x3fe41ffee11d9c33 0x3fe1f70367c3ec20 0x3fe6ee34026a76a0
    0xbfd4aaed96514b12 0x3f976e8307ba2905 0x3fb9a8fe261a1221 0xbfb505591d552ba0,
  .ofBits 0x3fe43ffffa174676 0x3fe20de80faff860 0x3fe6d98a9ea6d162
    0xbfd4a6626b927b3b 0x3f9905d8f84adbb0 0x3fb94015dd484db5 0xbfb4ef83783eef44,
  .ofBits 0x3fe45fff0d457fa4 0x3fe224b69f675300 0x3fe6c4e73a093351
    0xbfd4a18bcbf2bff8 0x3f9a968a84bb8c16 0x3fb8d7a493fbb975 0xbfb4d8673b37e4fb,
  .ofBits 0x3fe47ffe8f910e57 0x3fe23b70dd92b840 0x3fe6b04889b04359
    0xbfd49c6a974b07ff 0x3f9c20be25f20251 0x3fb86fa882e9673d 0xbfb4c00f0d12f550,
  .ofBits 0x3fe4a0017323fc6b 0x3fe25218e34e3420 0x3fe69bacf277fe27
    0xbfd496ff7f856aba 0x3f9da49e9928150c 0x3fb8081e3eb66a26 0xbfb4a68578ab06c5,
  .ofBits 0x3fe4c000b1bf0500 0x3fe268a9bd8b2c80 0x3fe6871942abbd42
    0xbfd4914cec74e64a 0x3f9f21ded0c3eeec 0x3fb7a1225b30aa05 0xbfb48bd4ec53ef43,
  .ofBits 0x3fe4e0011d07207b 0x3fe27f26da64f7a0 0x3fe6728aa7cfbeb2
    0xbfd48b533fcbb247 0x3fa04c60a7354a41 0x3fb73aaaeff6f27a 0xbfb47007b81a6bb2,
  .ofBits 0x3fe4fffe5f36eb46 0x3fe2958d35ddd180 0x3fe65e04307b6af3
    0xbfd48514828bb6e6 0x3fa1048e48993ed9 0x3fb6d4cb468d7c59 0xbfb453280d484989,
  .ofBits 0x3fe520012afdf759 0x3fe2abe2eb1c3280 0x3fe649808dc5daad
    0xbfd47e902c11e3b7 0x3fa1b9ae88e1b343 0x3fb66f6cff4501bf 0xbfb4353ffcd6b8de,
  .ofBits 0x3fe54001dfdb2423 0x3fe2c222ab0402c0 0x3fe63504e7e657fb
    0xbfd477c8eee53fa9 0x3fa26b9a696cd845 0x3fb60aad6a3aa6ef 0xbfb416597704e1f4,
  .ofBits 0x3fe55ffe72d2a74f 0x3fe2d84b16be7240 0x3fe62092ce54aede
    0xbfd470c07b764156 0x3fa31a4c4d9abee7 0x3fb5a697a899a63d 0xbfb3f67e49fa7fb1,
  .ofBits 0x3fe58000ee716c33 0x3fe2ee63284f3fe0 0x3fe60c24181c5720
    0xbfd46975c383b0c1 0x3fa3c5ffc40a1a5a 0x3fb543110b7b3b72 0xbfb3d5b821700401,
  .ofBits 0x3fe59fff9825cd2a 0x3fe304642defcf40 0x3fe5f7bf3c14a317
    0xbfd461ec227a4cde 0x3fa46e856da8d837 0x3fb4e03c6162f4c8 0xbfb3b410857f5976,
  .ofBits 0x3fe5bffdfe2a42cd 0x3fe31a50a5110dc0 0x3fe5e36233cf1268
    0xbfd45a23f68b7dbc 0x3fa513f5de40f0e9 0x3fb47e12de05901e 0xbfb39190da5cabb5,
  .ofBits 0x3fe5e00057330799 0x3fe3302b75253480 0x3fe5cf0a901da45a
    0xbfd4521d552754cf 0x3fa5b66bbbf000bb 0x3fb41c8bd2baf7b2 0xbfb36e425f53241a,
  .ofBits 0x3fe600014d6055da 0x3fe345f0ff2eda60 0x3fe5babbf2ea5900
    0xbfd449dab2008754 0x3fa655d118f56fbb 0x3fb3bbbb89a0c1b2 0xbfb34a2e2e8d60fc,
  .ofBits 0x3fe620012c3809cb 0x3fe35ba1812d5040 0x3fe5a676671e49e9
    0xbfd4415d230e6216 0x3fa6f22d6b05c7f7 0x3fb35ba4cfe6b72b 0xbfb3255d3c3bfa3b,
  .ofBits 0x3fe6400087b47ecc 0x3fe3713d69715580 0x3fe59239c8fb0e69
    0xbfd438a5a5bd1f6e 0x3fa78b897f9b13cf 0x3fb2fc4974f57c8f 0xbfb2ffd8566caaca,
  .ofBits 0x3fe66000a746397f 0x3fe386c59d968940 0x3fe57e0583073c58
    0xbfd42fb4fe3d0083 0x3fa821f14b9e1eeb 0x3fb29da91952ee82 0xbfb2d9a8245866a8,
  .ofBits 0x3fe68000e4e3094b 0x3fe39c39b5fe3900 0x3fe569da36dd131e
    0xbfd4268c74778fe0 0x3fa8b5679ab0310f 0x3fb23fc8f2e43205 0xbfb2b2d526483573,
  .ofBits 0x3fe6a001e2e37787 0x3fe3b19a27d52620 0x3fe555b7b5d865cd
    0xbfd41d2cf1600cd3 0x3fa945f54b79e859 0x3fb1e2aa46a0b02d 0xbfb28b67b508a35b,
  .ofBits 0x3fe6bffe0df4bbfb 0x3fe3c6e346f2b6e0 0x3fe541a1b658afbe
    0xbfd41399388da137 0x3fa9d387e5b3c2ba 0x3fb18660173397f9 0xbfb2636801db4945,
  .ofBits 0x3fe6dfffea406cea 0x3fe3dc1c1bb3d400 0x3fe52d91d33ffe8e
    0xbfd409cf36bcffe9 0x3faa5e54174405af 0x3fb12acedc041806 0xbfb23ade160d6557,
  .ofBits 0x3fe70000ed01ea65 0x3fe3f14054e51400 0x3fe5198c5c8b9119
    0xbfd3ffd1f2ea4ff7 0x3faae643308c81cd 0x3fb0d00c1960aaf7 0xbfb211d1d2f50d25,
  .ofBits 0x3fe7200200d515eb 0x3fe40650983bb3e0 0x3fe50590f2175c71
    0xbfd3f5a2361bb15c 0x3fab6b5f9b536afc 0x3fb07617a731624d 0xbfb1e84af1a8c054,
  .ofBits 0x3fe740011323de6d 0x3fe41b4b9483e720 0x3fe4f1a11027ba01
    0xbfd3eb41bb978c8f 0x3fabeda77765626a 0x3fb01cf997f58c8a 0xbfb1be5103074348,
  .ofBits 0x3fe75fff25cab4ca 0x3fe430320001d5c0 0x3fe4ddbc4573fb6c
    0xbfd3e0b141f21d2a 0x3fac6d25d1bda00f 0x3faf89625935ee68 0xbfb193eb6f8e0689,
  .ofBits 0x3fe77ffe90921f76 0x3fe445056cc6af00 0x3fe4c9e14cffbdae
    0xbfd3d5f10b247ec4 0x3face9ea943f4516 0x3faeda73f24a8af1 0xbfb16921776aac42,
  .ofBits 0x3fe79ffe47b2f83b 0x3fe459c535c19f20 0x3fe4b610fc8f20bd
    0xbfd3cb0273df2a0d 0x3fad63f823c5d6de 0x3fae2d319c5116ab 0xbfb13dfa326e2972,
  .ofBits 0x3fe7bfff2f1e79a9 0x3fe46e71f84df5c0 0x3fe4a24af586b1bd
    0xbfd3bfe62ef81e5b 0x3faddb58738896f0 0x3fad819a2515de78 0xbfb1127c9026fdd0,
  .ofBits 0x3fe7e001973c8d05 0x3fe4830bf0fb9580 0x3fe48e8f3466b08e
    0xbfd3b49d1c53a01a 0x3fae501325103eed 0x3facd7af5290f4af 0xbfb0e6af57ef003b,
  .ofBits 0x3fe7ffff69efc092 0x3fe4978f431c3800 0x3fe47ae1a3e1064a
    0xbfd3a92a666c50c4 0x3faec2194098a4be 0x3fac2f942eee57e0 0xbfb0ba99290d5730,
  .ofBits 0x3fe82001c52b5232 0x3fe4ac01d2b83340 0x3fe4673cd31b7cf5
    0xbfd39d8bc67d05f0 0x3faf31922a81b5d5 0x3fab891b8aa20e90 0xbfb08e407adcefd6,
  .ofBits 0x3fe84000bd4d4e3f 0x3fe4c05e9b1dbc60 0x3fe453a5c8d629f7
    0xbfd391c513e9ef47 0x3faf9e6917383d6b 0x3faae471278e21b9 0xbfb061ab9cf54d10,
  .ofBits 0x3fe860018c869cbd 0x3fe4d4a8fd2285a0 0x3fe4401979b82471
    0xbfd385d55c3e2929 0x3fb0045b7b2c8ff2 0x3faa417c39d7ca4f 0xbfb034e0b767b7d4,
  .ofBits 0x3fe87ffeb5db3710 0x3fe4e8dd8b93bca0 0x3fe42c9b66c6e6bf
    0xbfd379bfa32ee2a1 0x3fb038386187fe0f 0x3fa9a05a8b3a0b33 0xbfb007e5caee03a9,
  .ofBits 0x3fe8a000863c77e3 0x3fe4fd018fcd1e80 0x3fe41926a8a8093f
    0xbfd36d81b5ee344d 0x3fb06adc2841f292 0x3fa900e42484560b 0xbfafb58162792f0a,
  .ofBits 0x3fe8bfff0ed982af 0x3fe5111016e28ac0 0x3fe405c0389112ee
    0xbfd3611f89d38dc7 0x3fb09c3db450b9f7 0x3fa86342312d0c4a 0xbfaf5aee3a6ca012,
  .ofBits 0x3fe8e00002c3aeae 0x3fe5250cc0ab0a40 0x3fe3f264c65593c5
    0xbfd35497d82be900 0x3fb0cc6968546d39 0x3fa7c759db8499fd 0xbfaf001d36a32337,
  .ofBits 0x3fe90000ecbfa97b 0x3fe538f60e8d4ee0 0x3fe3df15f4119333
    0xbfd347ec7d2149f4 0x3fb0fb5efa921d3c 0x3fa72d3869693e89 0xbfaea51923a0f5f3,
  .ofBits 0x3fe91fffd251c01c 0x3fe54ccad3f3bd20 0x3fe3cbd51554dd15
    0xbfd33b1f2bc94245 0x3fb1291f2fc4c3f6 0x3fa694e81b7a765c 0xbfae49ec826e86f6,
  .ofBits 0x3fe94001d90af4e6 0x3fe5608e4d4ec640 0x3fe3b89f3445ef72
    0xbfd32e2eb7bbd79a 0x3fb155b4e401d071 0x3fa5fe513a256f1c 0xbfadeea1890ff662,
  .ofBits 0x3fe9600104fd6c17 0x3fe5743cd5673c20 0x3fe3a57809ebc6e2
    0xbfd3211e6da5039c 0x3fb1811b4e62286b 0x3fa5699071bece9d 0xbfad934223911641,
  .ofBits 0x3fe980002d214b82 0x3fe587d83b0d6120 0x3fe3925e01eaac3e
    0xbfd313ee08425504 0x3fb1ab5a02bdb571 0x3fa4d6989ebd70b8 0xbfad37d7f482965a,
  .ofBits 0x3fe99ffdeb980651 0x3fe59b5fb16ba7a0 0x3fe37f5210b1ab7a
    0xbfd3069ef993d676 0x3fb1d472cded25a8 0x3fa445702d0abd9a 0xbfacdc6c56221aa1,
  .ofBits 0x3fe9bfffe5504053 0x3fe5aed6b55de6a0 0x3fe36c50fa91c51e
    0xbfd2f92fbe311e56 0x3fb1fc705be3af05 0x3fa3b5fdacd5cdc7 0xbfac81085adbb9b8,
  .ofBits 0x3fe9e0016e60a234 0x3fe5c23a79acd480 0x3fe3595da5fab2ea
    0xbfd2eba31ddeceea 0x3fb2235035736518 0x3fa3285622f9fd28 0xbfac25b4ce8b2259,
  .ofBits 0x3fe9ffffb685741b 0x3fe5d5895ad40460 0x3fe34679d832b8d3
    0xbfd2ddfb230eda41 0x3fb24912b23c0ba2 0x3fa29c854c4e86da 0xbfabca7a37002a55,
  .ofBits 0x3fea20019d59b943 0x3fe5e8c78c187ea0 0x3fe333a19ede2183
    0xbfd2d035b0043779 0x3fb26dc37ab9110c 0x3fa2126c959cfc0e 0xbfab6f60d556233e,
  .ofBits 0x3fea3fffbe9e153f 0x3fe5fbf0a9c08ae0 0x3fe320d96f7861aa
    0xbfd2c256c2200f18 0x3fb2915da6795293 0x3fa18a2b256a8fde 0xbfab1470a67a4e89,
  .ofBits 0x3fea5ffe7a23a1ce 0x3fe60f0763200600 0x3fe30e1ed13d395e
    0xbfd2b45d44403932 0x3fb2b3e9c967f013 0x3fa103ad35d002b8 0xbfaab9b16496a8f1,
  .ofBits 0x3fea800157f250b8 0x3fe6220ddd6453a0 0x3fe2fb6fcfffcc1e
    0xbfd2a6486f8d8291 0x3fb2d56f03654cc3 0x3fa07ee34bb6e7a6 0xbfaa5f2a87992f03,
  .ofBits 0x3feaa000dd839d49 0x3fe634ffb412c9a0 0x3fe2e8d0e2d59e01
    0xbfd2981c5467cfdd 0x3fb2f5e8ff1fadb5 0x3f9ff7d6a3ba803c 0xbfaa04e346af8db7,
  .ofBits 0x3feac000770df220 0x3fe647defef70020 0x3fe2d640220aff7f
    0xbfd289d836f9e74f 0x3fb3155ee509140a 0x3f9ef56b61ab0b7f 0xbfa9aae298ce391f,
  .ofBits 0x3feae001125bbe48 0x3fe65aac57a24d20 0x3fe2c3bd1bfb3559
    0xbfd27b7c6dde55dd 0x3fb333d515c4c270 0x3f9df67a9bac4ecf 0xbfa9512f363a972b,
  .ofBits 0x3feafffe7c321839 0x3fe66d65569b83c0 0x3fe2b14a53fbf8d9
    0xbfd26d0b9cfa03ce 0x3fb3514b2caa2e0c 0x3f9cfb224597be9a 0xbfa8f7cf99110022,
  .ofBits 0x3feb1ffe75486924 0x3fe6800d68cefb40 0x3fe29ee48e6aa814
    0xbfd25e83e8afa7eb 0x3fb36dc9fb0e8ac8 0x3f9c0331ad5d66ca 0xbfa89ec9fedb1e8b,
  .ofBits 0x3feb40015fb8deb8 0x3fe692a4d137c500 0x3fe28c8babff668e
    0xbfd24fe5d8e71e0a 0x3fb389551297317a 0x3f9b0ea31d844655 0xbfa846246914067d,
  .ofBits 0x3feb6000386c27b9 0x3fe6a5278cdf6fc0 0x3fe27a43c5758db8
    0xbfd2413559cadce0 0x3fb3a3e9ee34ae91 0x3f9a1da81c5fff05 0xbfa7ede49ec8aac6,
  .ofBits 0x3feb8000d1efddb3 0x3fe6b7990accb660 0x3fe268099983aab2
    0xbfd2327076047e08 0x3fb3bd90f132139b 0x3f99301058deb3e1 0xbfa796102d194ce9,
  .ofBits 0x3feb9ffe42cc4047 0x3fe6c9f686445e60 0x3fe255e0069f871f
    0xbfd2239a25461639 0x3fb3d649a926c127 0x3f9845fbc5a21f70 0xbfa73eac68e20be6,
  .ofBits 0x3febc001951aeaad 0x3fe6dc453c4e45a0 0x3fe243c1ff6573b0
    0xbfd214aee38fa7e7 0x3fb3ee1e5ea1330f 0x3f975f242bcce6df 0xbfa6e7be6f3902c5,
  .ofBits 0x3febdffe6616fe11 0x3fe6ee7e27106fe0 0x3fe231b697b587f0
    0xbfd205b5240fef32 0x3fb4050944eb818c 0x3f967bde108160f9 0xbfa6914b271d18ad,
  .ofBits 0x3febffff54511c72 0x3fe700a7643bbb40 0x3fe21fb7e1823c8b
    0xbfd1f6a89a854f7a 0x3fb41b1571f04837 0x3f959bd8bbd10f7c 0xbfa63b5741f03711,
  .ofBits 0x3fec2000c537593e 0x3fe712bef36d6400 0x3fe20dc7f754b2d5
    0xbfd1e78b9d24dbed 0x3fb4304394f485e0 0x3f94bf29122a6884 0xbfa5e5e73d2aa4e9,
  .ofBits 0x3fec4000ddd35719 0x3fe724c3d7fa3000 0x3fe1fbe7f2a8b1bf
    0xbfd1d85fb25dddf6 0x3fb44495d2e3b20f 0x3f93e5d67fcc1b30 0xbfa590ff62d0d00f,
  .ofBits 0x3fec6000402375b6 0x3fe736b67dff3720 0x3fe1ea1786c92387
    0xbfd1c92531ddfc58 0x3fb4580ff8b6cbc2 0x3f930fd700ce998e 0xbfa53ca3cb299e5f,
  .ofBits 0x3fec7fff19904fe4 0x3fe748970f395860 0x3fe1d856a825ba33
    0xbfd1b9dca75e0fc5 0x3fb46ab579f8fd7d 0x3f923d23a5a90afe 0xbfa4e8d85d2f574b,
  .ofBits 0x3fec9ffef9e2409d 0x3fe75a6679e7f1c0 0x3fe1c6a48740d2e9
    0xbfd1aa85f198392c 0x3fb47c8a808c583a 0x3f916dac857f2526 0xbfa495a0d0477576,
  .ofBits 0x3fecc001e038ef72 0x3fe76c25e6815140 0x3fe1b50019bdadf8
    0xbfd19b20b4a469ae 0x3fb48d9342387ea2 0x3f90a15f7305baf5 0xbfa44300acae4e17,
  .ofBits 0x3fecdffeeb72037f 0x3fe77dd07a7a4aa0 0x3fe1a36e4f1f6702
    0xbfd18bb1d0992cf8 0x3fb49dce5aa4990d 0x3f8fb0dd63759665 0xbfa3f0fb4d2f0c0f,
  .ofBits 0x3fecffffea4839ed 0x3fe78f6bb17088c0 0x3fe191e9cf32122f
    0xbfd17c35220400ac 0x3fb4ad440a159641 0x3f8e252c80894ca9 0xbfa39f93df89c265,
  .ofBits 0x3fed1ffdec3ec8b2 0x3fe7a0f3c8c6c880 0x3fe18076729f01d6
    0xbfd16cae98515540 0x3fb4bbf41b0933ff 0x3f8c9ff5e09a60cd 0xbfa34ecd662a5704,
  .ofBits 0x3fed3fff7084edd4 0x3fe7b26c5f02f220 0x3fe16f10b9973206
    0xbfd15d1b9e1e0a54 0x3fb4c9e4ac2c9a30 0x3f8b20ddefce76cc 0xbfa2feaab888bc37,
  .ofBits 0x3fed5ffe8d728e7c 0x3fe7c3d2488d7e80 0x3fe15dbbe622a5a7
    0xbfd14d7fa305ceb2 0x3fb4d716417bf1c7 0x3f89a81ee19fe239 0xbfa2af2e84ddad07,
  .ofBits 0x3fed7fff70aa3b03 0x3fe7d527db239580 0x3fe14c75be4fea01
    0xbfd13dd92ad706aa 0x3fb4e38db49d32aa 0x3f88357a37df2b6d 0xbfa2605b507cd77b,
  .ofBits 0x3fed9fff1434fba3 0x3fe7e66b82c8a720 0x3fe13b3fed9b7fed
    0xbfd12e2a3ac9d646 0x3fb4ef4ce7b01cf5 0x3f86c905d25fd52d 0xbfa21233798666ef,
  .ofBits 0x3fedbffea8c8de8c 0x3fe7f79df4a0a520 0x3fe12a19d7fc2119
    0xbfd11e72c6be19df 0x3fb4fa57634e1b91 0x3f8562a647f96df5 0xbfa1c4b9373af599,
  .ofBits 0x3fede00026573df5 0x3fe808c04dbcb960 0x3fe119027903e4b9
    0xbfd10eb25cdfed06 0x3fb504b0cca681fa 0x3f8402386f3cde09 0xbfa177ee9ba8fa6a,
  .ofBits 0x3fedfffe35009b66 0x3fe819cfc2cb5340 0x3fe107fcb1c942b5
    0xbfd0feec230d7d92 0x3fb50e5a75c5b4f1 0x3f82a7e8e3c139d8 0xbfa12bd593fa642b,
  .ofBits 0x3fee2000492d4c68 0x3fe82ad05ccb8680 0x3fe0f704928e55df
    0xbfd0ef1cee0b0721 0x3fb51759937bfb74 0x3f8153592bc9fddb 0xbfa0e06fea1d1824,
  .ofBits 0x3fee40009412bb65 0x3fe83bbf14001a60 0x3fe0e61d37f485da
    0xbfd0df481b2bd37d 0x3fb51faf64024d14 0x3f8004b99b849698 0xbfa095bf450a2434,
  .ofBits 0x3fee5fff4758ef2f 0x3fe84c9c1531c180 0x3fe0d5468b7fece7
    0xbfd0cf6e105bfe1e 0x3fb5275ef9c5e03a 0x3f7d77f217aa1137 0xbfa04bc52a6891e1,
  .ofBits 0x3fee8000380f819f 0x3fe85d6974ccc060 0x3fe0c47e8f1da5b5
    0xbfd0bf8d62ad700f 0x3fb52e6c1f3fbc2b 0x3f7af1c3ee24ad7d 0xbfa00282fece26c9,
  .ofBits 0x3feea000a6d8cb7b 0x3fe86e25d00e3a60 0x3fe0b3c6ba314d62
    0xbfd0afa7e7cb2d84 0x3fb534d908e9071f 0x3f7877044ce5e5c9 0xbf9f73f40eb7c9d5,
  .ofBits 0x3feec0005a13ba60 0x3fe87ed119b163e0 0x3fe0a31f2ebb7ad7
    0xbfd09fbe33a3fce1 0x3fb53aa889d9af5d 0x3f760799f7f7040b 0xbf9ee456d3f0b3fb,
  .ofBits 0x3feedfff58f8dd18 0x3fe88f6b6681ca80 0x3fe09287ec4360b3
    0xbfd08fd0b7ce07e5 0x3fb53fdd7bdedd3f 0x3f73a36670c52e66 0xbf9e56305dca7315,
  .ofBits 0x3feeffffbe033400 0x3fe89ff5dd4d7960 0x3fe081ffdffe15bd
    0xbfd07fdedae56c0f 0x3fb5447af84d6f5d 0x3f714a247982941e 0xbf9dc98281e68835,
  .ofBits 0x3fef2001e6b5125d 0x3fe8b070bbe88160 0x3fe07186df7122e2
    0xbfd06fe8de905325 0x3fb54883b5deec7a 0x3f6df762b4a186d5 0xbf9d3e4ede20f495,
  .ofBits 0x3fef3ffdf770e0db 0x3fe8c0d809e96380 0x3fe06120f5a576a9
    0xbfd05ff31d2912ff 0x3fb54bf98cd1001f 0x3f6970fc6e90dc16 0xbf9cb496d8eb587e,
  .ofBits 0x3fef5ffe4e16da33 0x3fe8d13129bccdc0 0x3fe050c8d33ba4e9
    0xbfd04ff8d74c83d2 0x3fb54ee0592bb252 0x3f64ff617193eeb5 0xbf9c2c5ba459ac86,
  .ofBits 0x3fef80004576ff2e 0x3fe8e17acce443a0 0x3fe0407fd8a97b6c
    0xbfd03ffbc91b3e55 0x3fb5513a5f3357f7 0x3f60a2ba14c92b53 0xbf9ba59e3e70df71,
  .ofBits 0x3fef9fff39b6a330 0x3fe8f1b2a7f515a0 0x3fe0304863064158
    0xbfd02ffeacbaada8 0x3fb55309f27448c0 0x3f58b6d64850006b 0xbf9b205f742323df,
  .ofBits 0x3fefc001aa76c0b9 0x3fe901dc15d66d80 0x3fe0201f28d9b4aa
    0xbfd01ffea98d4c38 0x3fb55452089780f8 0x3f5050b57f35c5bb 0xbf9a9c9fe19247af,
  .ofBits 0x3fefdffe39a592ca 0x3fe911f26d88a780 0x3fe01008e40c6538
    0xbfd01000d31688de 0x3fb55514e32f1816 0x3f402a154e1628d2 0xbf9a1a5ff4faf5a0,
  .ofBits 0x3feff8018e92d1b0 0x3fe91dfb9bb4bf00 0x3fe003ffb884c5a9
    0xbfd003ff3876a954 0x3fb555515539ddfb 0x3f2007e77b95e6c2 0xbf99b9a718a3ba58]

/-- The table has a node for every 256th part from one sixteenth to one, both ends included. -/
theorem size_arcTangentNodes : arcTangentNodes.size = 241 := by
  decide +kernel

end SpriteStage.Number
