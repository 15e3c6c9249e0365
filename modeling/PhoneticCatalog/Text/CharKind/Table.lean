/-!
# Kinds of characters: the table

The code points of Unicode 14.0 beyond ASCII in ascending runs of one kind. `kindRuns` writes every
run as the first code point in lower-case hexadecimal digits, followed by one capital letter:

* `L` letters of any case, and modifier letters;
* `D` decimal digits, `N` numbers made of letters, `O` all other numbers;
* `M` marks that take room or none, `C` connecting punctuation;
* `S` other visible characters: punctuation, symbols and enclosing marks;
* `U` characters without a visible form: controls, formats, separators, surrogates, private use and
  unassigned code points.
-/

namespace PhoneticCatalog.Text

/-- The runs of characters of one kind beyond ASCII, each written as its first code point and a kind
letter. -/
def kindRuns : String := String.join
  ["80Ua1SaaLabSadUaeSb2Ob4Sb5Lb6Sb9ObaLbbSbcObfSc0Ld7Sd8Lf7S",
   "f8L2c2S2c6L2d2S2e0L2e5S2ecL2edS2eeL2efS300M370L375S376L378U37aL37eS37fL380U384S386L387S",
   "388L38bU38cL38dU38eL3a2U3a3L3f6S3f7L482S483M488S48aL530U531L557U559L55aS560L589S58bU58dS",
   "590U591M5beS5bfM5c0S5c1M5c3S5c4M5c6S5c7M5c8U5d0L5ebU5efL5f3S5f5U606S610M61bS61cU61dS620L",
   "64bM660D66aS66eL670M671L6d4S6d5L6d6M6ddU6deS6dfM6e5L6e7M6e9S6eaM6eeL6f0D6faL6fdS6ffL700S",
   "70eU710L711M712L730M74bU74dL7a6M7b1L7b2U7c0D7caL7ebM7f4L7f6S7faL7fbU7fdM7feS800L816M81aL",
   "81bM824L825M828L829M82eU830S83fU840L859M85cU85eS85fU860L86bU870L888S889L88fU898M8a0L8caM",
   "8e2U8e3M904L93aM93dL93eM950L951M958L962M964S966D970S971L981M984U985L98dU98fL991U993L9a9U",
   "9aaL9b1U9b2L9b3U9b6L9baU9bcM9bdL9beM9c5U9c7M9c9U9cbM9ceL9cfU9d7M9d8U9dcL9deU9dfL9e2M9e4U",
   "9e6D9f0L9f2S9f4O9faS9fcL9fdS9feM9ffUa01Ma04Ua05La0bUa0fLa11Ua13La29Ua2aLa31Ua32La34Ua35L",
   "a37Ua38La3aUa3cMa3dUa3eMa43Ua47Ma49Ua4bMa4eUa51Ma52Ua59La5dUa5eLa5fUa66Da70Ma72La75Ma76S",
   "a77Ua81Ma84Ua85La8eUa8fLa92Ua93Laa9UaaaLab1Uab2Lab4Uab5LabaUabcMabdLabeMac6Uac7MacaUacbM",
   "aceUad0Lad1Uae0Lae2Mae4Uae6Daf0Saf2Uaf9LafaMb00Ub01Mb04Ub05Lb0dUb0fLb11Ub13Lb29Ub2aLb31U",
   "b32Lb34Ub35Lb3aUb3cMb3dLb3eMb45Ub47Mb49Ub4bMb4eUb55Mb58Ub5cLb5eUb5fLb62Mb64Ub66Db70Sb71L",
   "b72Ob78Ub82Mb83Lb84Ub85Lb8bUb8eLb91Ub92Lb96Ub99Lb9bUb9cLb9dUb9eLba0Uba3Lba5Uba8LbabUbaeL",
   "bbaUbbeMbc3Ubc6Mbc9UbcaMbceUbd0Lbd1Ubd7Mbd8Ube6Dbf0Obf3SbfbUc00Mc05Lc0dUc0eLc11Uc12Lc29U",
   "c2aLc3aUc3cMc3dLc3eMc45Uc46Mc49Uc4aMc4eUc55Mc57Uc58Lc5bUc5dLc5eUc60Lc62Mc64Uc66Dc70Uc77S",
   "c78Oc7fSc80Lc81Mc84Sc85Lc8dUc8eLc91Uc92Lca9UcaaLcb4Ucb5LcbaUcbcMcbdLcbeMcc5Ucc6Mcc9UccaM",
   "cceUcd5Mcd7UcddLcdfUce0Lce2Mce4Uce6Dcf0Ucf1Lcf3Ud00Md04Ld0dUd0eLd11Ud12Ld3bMd3dLd3eMd45U",
   "d46Md49Ud4aMd4eLd4fSd50Ud54Ld57Md58Od5fLd62Md64Ud66Dd70Od79Sd7aLd80Ud81Md84Ud85Ld97Ud9aL",
   "db2Udb3LdbcUdbdLdbeUdc0Ldc7UdcaMdcbUdcfMdd5Udd6Mdd7Udd8Mde0Ude6Ddf0Udf2Mdf4Sdf5Ue01Le31M",
   "e32Le34Me3bUe3fSe40Le47Me4fSe50De5aSe5cUe81Le83Ue84Le85Ue86Le8bUe8cLea4Uea5Lea6Uea7Leb1M",
   "eb2Leb4MebdLebeUec0Lec5Uec6Lec7Uec8MeceUed0DedaUedcLee0Uf00Lf01Sf18Mf1aSf20Df2aOf34Sf35M",
   "f36Sf37Mf38Sf39Mf3aSf3eMf40Lf48Uf49Lf6dUf71Mf85Sf86Mf88Lf8dMf98Uf99MfbdUfbeSfc6Mfc7SfcdU",
   "fceSfdbU1000L102bM103fL1040D104aS1050L1056M105aL105eM1061L1062M1065L1067M106eL1071M1075L",
   "1082M108eL108fM1090D109aM109eS10a0L10c6U10c7L10c8U10cdL10ceU10d0L10fbS10fcL1249U124aL",
   "124eU1250L1257U1258L1259U125aL125eU1260L1289U128aL128eU1290L12b1U12b2L12b6U12b8L12bfU",
   "12c0L12c1U12c2L12c6U12c8L12d7U12d8L1311U1312L1316U1318L135bU135dM1360S1369O137dU1380L",
   "1390S139aU13a0L13f6U13f8L13feU1400S1401L166dS166fL1680U1681L169bS169dU16a0L16ebS16eeN",
   "16f1L16f9U1700L1712M1716U171fL1732M1735S1737U1740L1752M1754U1760L176dU176eL1771U1772M",
   "1774U1780L17b4M17d4S17d7L17d8S17dcL17ddM17deU17e0D17eaU17f0O17faU1800S180bM180eU180fM",
   "1810D181aU1820L1879U1880L1885M1887L18a9M18aaL18abU18b0L18f6U1900L191fU1920M192cU1930M",
   "193cU1940S1941U1944S1946D1950L196eU1970L1975U1980L19acU19b0L19caU19d0D19daO19dbU19deS",
   "1a00L1a17M1a1cU1a1eS1a20L1a55M1a5fU1a60M1a7dU1a7fM1a80D1a8aU1a90D1a9aU1aa0S1aa7L1aa8S",
   "1aaeU1ab0M1abeS1abfM1acfU1b00M1b05L1b34M1b45L1b4dU1b50D1b5aS1b6bM1b74S1b7fU1b80M1b83L",
   "1ba1M1baeL1bb0D1bbaL1be6M1bf4U1bfcS1c00L1c24M1c38U1c3bS1c40D1c4aU1c4dL1c50D1c5aL1c7eS",
   "1c80L1c89U1c90L1cbbU1cbdL1cc0S1cc8U1cd0M1cd3S1cd4M1ce9L1cedM1ceeL1cf4M1cf5L1cf7M1cfaL",
   "1cfbU1d00L1dc0M1e00L1f16U1f18L1f1eU1f20L1f46U1f48L1f4eU1f50L1f58U1f59L1f5aU1f5bL1f5cU",
   "1f5dL1f5eU1f5fL1f7eU1f80L1fb5U1fb6L1fbdS1fbeL1fbfS1fc2L1fc5U1fc6L1fcdS1fd0L1fd4U1fd6L",
   "1fdcU1fddS1fe0L1fedS1ff0U1ff2L1ff5U1ff6L1ffdS1fffU2010S2028U2030S203fC2041S2054C2055S",
   "205fU2070O2071L2072U2074O207aS207fL2080O208aS208fU2090L209dU20a0S20c1U20d0M20ddS20e1M",
   "20e2S20e5M20f1U2100S2102L2103S2107L2108S210aL2114S2115L2116S2119L211eS2124L2125S2126L",
   "2127S2128L2129S212aL212eS212fL213aS213cL2140S2145L214aS214eL214fS2150O2160N2183L2185N",
   "2189O218aS218cU2190S2427U2440S244bU2460O249cS24eaO2500S2776O2794S2b74U2b76S2b96U2b97S",
   "2c00L2ce5S2cebL2cefM2cf2L2cf4U2cf9S2cfdO2cfeS2d00L2d26U2d27L2d28U2d2dL2d2eU2d30L2d68U",
   "2d6fL2d70S2d71U2d7fM2d80L2d97U2da0L2da7U2da8L2dafU2db0L2db7U2db8L2dbfU2dc0L2dc7U2dc8L",
   "2dcfU2dd0L2dd7U2dd8L2ddfU2de0M2e00S2e2fL2e30S2e5eU2e80S2e9aU2e9bS2ef4U2f00S2fd6U2ff0S",
   "2ffcU3001S3005L3007N3008S3021N302aM3030S3031L3036S3038N303bL303dS3040U3041L3097U3099M",
   "309bS309dL30a0S30a1L30fbS30fcL3100U3105L3130U3131L318fU3190S3192O3196S31a0L31c0S31e4U",
   "31f0L3200S321fU3220O322aS3248O3250S3251O3260S3280O328aS32b1O32c0S3400L4dc0S4e00La48dU",
   "a490Sa4c7Ua4d0La4feSa500La60dSa610La620Da62aLa62cUa640La66fMa670Sa674Ma67eSa67fLa69eM",
   "a6a0La6e6Na6f0Ma6f2Sa6f8Ua700Sa717La720Sa722La789Sa78bLa7cbUa7d0La7d2Ua7d3La7d4Ua7d5L",
   "a7daUa7f2La802Ma803La806Ma807La80bMa80cLa823Ma828Sa82cMa82dUa830Oa836Sa83aUa840La874S",
   "a878Ua880Ma882La8b4Ma8c6Ua8ceSa8d0Da8daUa8e0Ma8f2La8f8Sa8fbLa8fcSa8fdLa8ffMa900Da90aL",
   "a926Ma92eSa930La947Ma954Ua95fSa960La97dUa980Ma984La9b3Ma9c1Sa9ceUa9cfLa9d0Da9daUa9deS",
   "a9e0La9e5Ma9e6La9f0Da9faLa9ffUaa00Laa29Maa37Uaa40Laa43Maa44Laa4cMaa4eUaa50Daa5aUaa5cS",
   "aa60Laa77Saa7aLaa7bMaa7eLaab0Maab1Laab2Maab5Laab7Maab9LaabeMaac0Laac1Maac2Laac3UaadbL",
   "aadeSaae0LaaebMaaf0Saaf2Laaf5Maaf7Uab01Lab07Uab09Lab0fUab11Lab17Uab20Lab27Uab28Lab2fU",
   "ab30Lab5bSab5cLab6aSab6cUab70Labe3MabebSabecMabeeUabf0DabfaUac00Ld7a4Ud7b0Ld7c7Ud7cbL",
   "d7fcUf900Lfa6eUfa70LfadaUfb00Lfb07Ufb13Lfb18Ufb1dLfb1eMfb1fLfb29Sfb2aLfb37Ufb38Lfb3dU",
   "fb3eLfb3fUfb40Lfb42Ufb43Lfb45Ufb46Lfbb2Sfbc3Ufbd3Lfd3eSfd50Lfd90Ufd92Lfdc8UfdcfSfdd0U",
   "fdf0LfdfcSfe00Mfe10Sfe1aUfe20Mfe30Sfe33Cfe35Sfe4dCfe50Sfe53Ufe54Sfe67Ufe68Sfe6cUfe70L",
   "fe75Ufe76LfefdUff01Sff10Dff1aSff21Lff3bSff3fCff40Sff41Lff5bSff66LffbfUffc2Lffc8UffcaL",
   "ffd0Uffd2Lffd8UffdaLffddUffe0Sffe7Uffe8SffefUfffcSfffeU10000L1000cU1000dL10027U10028L",
   "1003bU1003cL1003eU1003fL1004eU10050L1005eU10080L100fbU10100S10103U10107O10134U10137S",
   "10140N10175O10179S1018aO1018cS1018fU10190S1019dU101a0S101a1U101d0S101fdM101feU10280L",
   "1029dU102a0L102d1U102e0M102e1O102fcU10300L10320O10324U1032dL10341N10342L1034aN1034bU",
   "10350L10376M1037bU10380L1039eU1039fS103a0L103c4U103c8L103d0S103d1N103d6U10400L1049eU",
   "104a0D104aaU104b0L104d4U104d8L104fcU10500L10528U10530L10564U1056fS10570L1057bU1057cL",
   "1058bU1058cL10593U10594L10596U10597L105a2U105a3L105b2U105b3L105baU105bbL105bdU10600L",
   "10737U10740L10756U10760L10768U10780L10786U10787L107b1U107b2L107bbU10800L10806U10808L",
   "10809U1080aL10836U10837L10839U1083cL1083dU1083fL10856U10857S10858O10860L10877S10879O",
   "10880L1089fU108a7O108b0U108e0L108f3U108f4L108f6U108fbO10900L10916O1091cU1091fS10920L",
   "1093aU1093fS10940U10980L109b8U109bcO109beL109c0O109d0U109d2O10a00L10a01M10a04U10a05M",
   "10a07U10a0cM10a10L10a14U10a15L10a18U10a19L10a36U10a38M10a3bU10a3fM10a40O10a49U10a50S",
   "10a59U10a60L10a7dO10a7fS10a80L10a9dO10aa0U10ac0L10ac8S10ac9L10ae5M10ae7U10aebO10af0S",
   "10af7U10b00L10b36U10b39S10b40L10b56U10b58O10b60L10b73U10b78O10b80L10b92U10b99S10b9dU",
   "10ba9O10bb0U10c00L10c49U10c80L10cb3U10cc0L10cf3U10cfaO10d00L10d24M10d28U10d30D10d3aU",
   "10e60O10e7fU10e80L10eaaU10eabM10eadS10eaeU10eb0L10eb2U10f00L10f1dO10f27L10f28U10f30L",
   "10f46M10f51O10f55S10f5aU10f70L10f82M10f86S10f8aU10fb0L10fc5O10fccU10fe0L10ff7U11000M",
   "11003L11038M11047S1104eU11052O11066D11070M11071L11073M11075L11076U1107fM11083L110b0M",
   "110bbS110bdU110beS110c2M110c3U110d0L110e9U110f0D110faU11100M11103L11127M11135U11136D",
   "11140S11144L11145M11147L11148U11150L11173M11174S11176L11177U11180M11183L111b3M111c1L",
   "111c5S111c9M111cdS111ceM111d0D111daL111dbS111dcL111ddS111e0U111e1O111f5U11200L11212U",
   "11213L1122cM11238S1123eM1123fU11280L11287U11288L11289U1128aL1128eU1128fL1129eU1129fL",
   "112a9S112aaU112b0L112dfM112ebU112f0D112faU11300M11304U11305L1130dU1130fL11311U11313L",
   "11329U1132aL11331U11332L11334U11335L1133aU1133bM1133dL1133eM11345U11347M11349U1134bM",
   "1134eU11350L11351U11357M11358U1135dL11362M11364U11366M1136dU11370M11375U11400L11435M",
   "11447L1144bS11450D1145aS1145cU1145dS1145eM1145fL11462U11480L114b0M114c4L114c6S114c7L",
   "114c8U114d0D114daU11580L115afM115b6U115b8M115c1S115d8L115dcM115deU11600L11630M11641S",
   "11644L11645U11650D1165aU11660S1166dU11680L116abM116b8L116b9S116baU116c0D116caU11700L",
   "1171bU1171dM1172cU11730D1173aO1173cS11740L11747U11800L1182cM1183bS1183cU118a0L118e0D",
   "118eaO118f3U118ffL11907U11909L1190aU1190cL11914U11915L11917U11918L11930M11936U11937M",
   "11939U1193bM1193fL11940M11941L11942M11944S11947U11950D1195aU119a0L119a8U119aaL119d1M",
   "119d8U119daM119e1L119e2S119e3L119e4M119e5U11a00L11a01M11a0bL11a33M11a3aL11a3bM11a3fS",
   "11a47M11a48U11a50L11a51M11a5cL11a8aM11a9aS11a9dL11a9eS11aa3U11ab0L11af9U11c00L11c09U",
   "11c0aL11c2fM11c37U11c38M11c40L11c41S11c46U11c50D11c5aO11c6dU11c70S11c72L11c90U11c92M",
   "11ca8U11ca9M11cb7U11d00L11d07U11d08L11d0aU11d0bL11d31M11d37U11d3aM11d3bU11d3cM11d3eU",
   "11d3fM11d46L11d47M11d48U11d50D11d5aU11d60L11d66U11d67L11d69U11d6aL11d8aM11d8fU11d90M",
   "11d92U11d93M11d98L11d99U11da0D11daaU11ee0L11ef3M11ef7S11ef9U11fb0L11fb1U11fc0O11fd5S",
   "11ff2U11fffS12000L1239aU12400N1246fU12470S12475U12480L12544U12f90L12ff1S12ff3U13000L",
   "1342fU14400L14647U16800L16a39U16a40L16a5fU16a60D16a6aU16a6eS16a70L16abfU16ac0D16acaU",
   "16ad0L16aeeU16af0M16af5S16af6U16b00L16b30M16b37S16b40L16b44S16b46U16b50D16b5aU16b5bO",
   "16b62U16b63L16b78U16b7dL16b90U16e40L16e80O16e97S16e9bU16f00L16f4bU16f4fM16f50L16f51M",
   "16f88U16f8fM16f93L16fa0U16fe0L16fe2S16fe3L16fe4M16fe5U16ff0M16ff2U17000L187f8U18800L",
   "18cd6U18d00L18d09U1aff0L1aff4U1aff5L1affcU1affdL1afffU1b000L1b123U1b150L1b153U1b164L",
   "1b168U1b170L1b2fcU1bc00L1bc6bU1bc70L1bc7dU1bc80L1bc89U1bc90L1bc9aU1bc9cS1bc9dM1bc9fS",
   "1bca0U1cf00M1cf2eU1cf30M1cf47U1cf50S1cfc4U1d000S1d0f6U1d100S1d127U1d129S1d165M1d16aS",
   "1d16dM1d173U1d17bM1d183S1d185M1d18cS1d1aaM1d1aeS1d1ebU1d200S1d242M1d245S1d246U1d2e0O",
   "1d2f4U1d300S1d357U1d360O1d379U1d400L1d455U1d456L1d49dU1d49eL1d4a0U1d4a2L1d4a3U1d4a5L",
   "1d4a7U1d4a9L1d4adU1d4aeL1d4baU1d4bbL1d4bcU1d4bdL1d4c4U1d4c5L1d506U1d507L1d50bU1d50dL",
   "1d515U1d516L1d51dU1d51eL1d53aU1d53bL1d53fU1d540L1d545U1d546L1d547U1d54aL1d551U1d552L",
   "1d6a6U1d6a8L1d6c1S1d6c2L1d6dbS1d6dcL1d6fbS1d6fcL1d715S1d716L1d735S1d736L1d74fS1d750L",
   "1d76fS1d770L1d789S1d78aL1d7a9S1d7aaL1d7c3S1d7c4L1d7ccU1d7ceD1d800S1da00M1da37S1da3bM",
   "1da6dS1da75M1da76S1da84M1da85S1da8cU1da9bM1daa0U1daa1M1dab0U1df00L1df1fU1e000M1e007U",
   "1e008M1e019U1e01bM1e022U1e023M1e025U1e026M1e02bU1e100L1e12dU1e130M1e137L1e13eU1e140D",
   "1e14aU1e14eL1e14fS1e150U1e290L1e2aeM1e2afU1e2c0L1e2ecM1e2f0D1e2faU1e2ffS1e300U1e7e0L",
   "1e7e7U1e7e8L1e7ecU1e7edL1e7efU1e7f0L1e7ffU1e800L1e8c5U1e8c7O1e8d0M1e8d7U1e900L1e944M",
   "1e94bL1e94cU1e950D1e95aU1e95eS1e960U1ec71O1ecacS1ecadO1ecb0S1ecb1O1ecb5U1ed01O1ed2eS",
   "1ed2fO1ed3eU1ee00L1ee04U1ee05L1ee20U1ee21L1ee23U1ee24L1ee25U1ee27L1ee28U1ee29L1ee33U",
   "1ee34L1ee38U1ee39L1ee3aU1ee3bL1ee3cU1ee42L1ee43U1ee47L1ee48U1ee49L1ee4aU1ee4bL1ee4cU",
   "1ee4dL1ee50U1ee51L1ee53U1ee54L1ee55U1ee57L1ee58U1ee59L1ee5aU1ee5bL1ee5cU1ee5dL1ee5eU",
   "1ee5fL1ee60U1ee61L1ee63U1ee64L1ee65U1ee67L1ee6bU1ee6cL1ee73U1ee74L1ee78U1ee79L1ee7dU",
   "1ee7eL1ee7fU1ee80L1ee8aU1ee8bL1ee9cU1eea1L1eea4U1eea5L1eeaaU1eeabL1eebcU1eef0S1eef2U",
   "1f000S1f02cU1f030S1f094U1f0a0S1f0afU1f0b1S1f0c0U1f0c1S1f0d0U1f0d1S1f0f6U1f100O1f10dS",
   "1f1aeU1f1e6S1f203U1f210S1f23cU1f240S1f249U1f250S1f252U1f260S1f266U1f300S1f6d8U1f6ddS",
   "1f6edU1f6f0S1f6fdU1f700S1f774U1f780S1f7d9U1f7e0S1f7ecU1f7f0S1f7f1U1f800S1f80cU1f810S",
   "1f848U1f850S1f85aU1f860S1f888U1f890S1f8aeU1f8b0S1f8b2U1f900S1fa54U1fa60S1fa6eU1fa70S",
   "1fa75U1fa78S1fa7dU1fa80S1fa87U1fa90S1faadU1fab0S1fabbU1fac0S1fac6U1fad0S1fadaU1fae0S",
   "1fae8U1faf0S1faf7U1fb00S1fb93U1fb94S1fbcbU1fbf0D1fbfaU20000L2a6e0U2a700L2b739U2b740L",
   "2b81eU2b820L2cea2U2ceb0L2ebe1U2f800L2fa1eU30000L3134bUe0100Me01f0U"]

end PhoneticCatalog.Text
