import PhoneticCatalog.Text.CharName.Table

/-!
# Names of characters: signs

The names of punctuation, symbols and pictures: from U+2000 up to U+9FFF and from U+1D000 on,
written as `NameRun` says.
-/

namespace PhoneticCatalog.Text

/-- The names of punctuation, symbols and pictures. -/
def signNames : List NameRun := [
  ⟨0x2000,
   ["aEN QUADaEM QUADaEN SPACEaEM SPACEaTHREE-PER-EM SPACEaFOUR-PER-EM SPACEaSIX-PER-EM SPACE",
    "aFIGURE SPACEaPUNCTUATION SPACEaTHIN SPACEaHAIR SPACEaZERO WIDTH SPACEcNON-JOINERcJOINER",
    "aLEFT-TO-uMARKaRIGHT-TO-xMARKaHYPHENaNON-BREAKING HYPHENaFIGURE DASHaEN DASHaEM DASH",
    "aHORIZONTAL BARawVERTICAL LINEbLOW LINEaxSINGLE QUOTATION MARKauSINGLE QUOTATION MARK",
    "aSINGLE LOW-9 QUOTATION MARKbHIGH-REVERSED-9 QUOTATION MARKaxwQUOTATION MARK",
    "auwQUOTATION MARKawLOW-9 QUOTATION MARKbHIGH-REVERSED-9 QUOTATION MARKaDAGGERawDAGGER",
    "aBULLETaTRIANGULAR BULLETaONE DOT LEADERaTWO DOT LEADERaHORIZONTAL ELLIPSIS",
    "aHYPHENATION POINTaLINE SEPARATORaPARAGRAPH SEPARATORaLEFT-TO-uEMBEDDING",
    "aRIGHT-TO-xEMBEDDINGaPOP DIRECTIONAL FORMATTINGaLEFT-TO-uOVERRIDEaRIGHT-TO-xOVERRIDE",
    "aNARROW NO-BREAK SPACEaPER MILLE SIGNbTEN THOUSAND SIGNaPRIMEawPRIMEaTRIPLE PRIME",
    "aREVERSED PRIMEbwPRIMEbTRIPLE PRIMEaCARETaSINGLE LEFT-POINTING ANGLE QUOTATION MARK",
    "bRIGHT-POINTING ANGLE QUOTATION MARKaREFERENCE MARKawEXCLAMATION MARKaINTERROBANGaOVERLINE",
    "aUNDERTIEaCHARACTER TIEaCARET INSERTION POINTaASTERISMaHYPHEN BULLETaFRACTION SLASH",
    "axSQUARE BRACKET nQUILLauSQUARE BRACKET nQUILLawQUESTION MARKaQUESTION EXCLAMATION MARK",
    "aEXCLAMATION QUESTION MARKaTIRONIAN yETaREVERSED PILCROW SIGNaBLACK LEFTWARDS BULLET",
    "bvBULLETaLOW ASTERISKaREVERSED SEMICOLONaCLOSE UPaTWO ASTERISKS ALIGNED VERTICALLY",
    "aCOMMERCIAL MINUS SIGNaSWUNG DASHaINVERTED UNDERTIEaFLOWER PUNCTUATION MARK",
    "aTHREE DOT PUNCTUATIONaQUADRUPLE PRIMEaFOUR DOT PUNCTUATIONaFIVE DOT PUNCTUATION",
    "aTWO DOT PUNCTUATIONaFOUR DOT MARKaDOTTED CROSSaTRICOLONaVERTICAL FOUR DOTS",
    "aMEDIUM MATHEMATICAL SPACEaWORD JOINERaFUNCTION APPLICATIONaINVISIBLE TIMESbSEPARATORbPLUS"]⟩,
  ⟨0x2066,
   ["aLEFT-TO-uISOLATEaRIGHT-TO-xISOLATEaFIRST STRONG ISOLATEaPOP DIRECTIONAL ISOLATE",
    "aINHIBIT SYMMETRIC SWAPPINGaACTIVATE SYMMETRIC SWAPPINGaINHIBIT ARABIC FORM SHAPING",
    "aACTIVATE ARABIC FORM SHAPINGaNATIONAL DIGIT SHAPESaNOMINAL DIGIT SHAPESaSUPERSCRIPT ZERO",
    "bLATIN pmI"]⟩,
  ⟨0x2074,
   ["aSUPERSCRIPT FOURbFIVEbSIXbSEVENbEIGHTbNINEbPLUS SIGNbMINUSbEQUALS SIGNbxPARENTHESIS",
    "buPARENTHESISbLATIN pmNaSUBSCRIPT ZERObONEbTWObTHREEbFOURbFIVEbSIXbSEVENbEIGHTbNINE",
    "bPLUS SIGNbMINUSbEQUALS SIGNbxPARENTHESISbuPARENTHESIS"]⟩,
  ⟨0x2090, ["aLATIN SUBSCRIPT pmAeEeOeXeSCHWAeHeKeLeMeNePeSeT"]⟩,
  ⟨0x20a0,
   ["aEURO-CURRENCY SIGNaCOLON SIGNaCRUZEIRO SIGNaFRENCH FRANC SIGNaLIRA SIGNaMILL SIGN",
    "aNAIRA SIGNaPESETA SIGNaRUPEE SIGNaWON SIGNaNEW SHEQEL SIGNaDONG SIGNaEURO SIGNaKIP SIGN",
    "aTUGRIK SIGNaDRACHMA SIGNaGERMAN PENNY SIGNaPESO SIGNaGUARANI SIGNaAUSTRAL SIGN",
    "aHRYVNIA SIGNaCEDI SIGNaLIVRE TOURNOIS SIGNaSPESMILO SIGNaTENGE SIGNaINDIAN RUPEE SIGN",
    "aTURKISH LIRA SIGNaNORDIC MARK SIGNaMANAT SIGNaRUBLE SIGNaLARI SIGNaBITCOIN SIGNaSOM SIGN"]⟩,
  ⟨0x20d0,
   ["aCOMBINING xHARPOON ABOVEbuHARPOON ABOVEbLONG VERTICAL LINE OVERLAY",
    "bSHORT VERTICAL LINE OVERLAYbANTICLOCKWISE ARROW ABOVEbCLOCKWISE ARROW ABOVEbxARROW ABOVE",
    "buARROW ABOVEbRING OVERLAYbCLOCKWISE RING OVERLAYbANTICLOCKWISE RING OVERLAY",
    "bTHREE DOTS ABOVEbFOUR DOTS ABOVEbENCLOSING CIRCLEcSQUAREcDIAMONDcCIRCLE BACKSLASH",
    "bxuARROW ABOVEbENCLOSING SCREENcKEYCAPcUPWARD POINTING TRIANGLEbREVERSE SOLIDUS OVERLAY",
    "bwVERTICAL STROKE OVERLAYbANNUITY SYMBOLbTRIPLE UNDERDOTbWIDE BRIDGE ABOVE",
    "bLEFTWARDS ARROW OVERLAYbLONG wSOLIDUS OVERLAYbvHARPOON nBARB DOWNWARDS",
    "bLEFTWARDS HARPOON nBARB DOWNWARDSbxARROW BELOWbuARROW BELOWbASTERISK ABOVE"]⟩,
  ⟨0x2100,
   ["aACCOUNT OFaADDRESSED TO THE SUBJECTaDOUBLE-STRUCK oCaDEGREE CELSIUSaCENTRE LINE SYMBOL",
    "aCARE OFaCADA UNAaEULER CONSTANTaSCRUPLEaDEGREE FAHRENHEITaSCRIPT pGboHaBLACK-moH",
    "aDOUBLE-STRUCK oHaPLANCK CONSTANTbCONSTANT OVER TWO PIaSCRIPT oIaBLACK-moIaSCRIPT oLbpL",
    "aL B BAR SYMBOLaDOUBLE-STRUCK oNaNUMERO SIGNaSOUND RECORDING COPYRIGHTaSCRIPT oP",
    "aDOUBLE-STRUCK oPdQaSCRIPT oRaBLACK-moRaDOUBLE-STRUCK oRaPRESCRIPTION TAKEaRESPONSE",
    "aSERVICE MARKaTELEPHONE SIGNaTRADE MARK SIGNaVERSICLEaDOUBLE-STRUCK oZaOUNCE SIGNaOHM SIGN",
    "aINVERTED OHM SIGNaBLACK-moZaTURNED GREEK pmIOTAaKELVIN SIGNaANGSTROM SIGNaSCRIPT oB",
    "aBLACK-moCaESTIMATED SYMBOLaSCRIPT pEboEcFaTURNED oFaSCRIPT oMbpOaALEF SYMBOLaBET SYMBOL",
    "aGIMEL SYMBOLaDALET SYMBOLaINFORMATION SOURCEaROTATED oQaFACSIMILE SIGNaDOUBLE-STRUCK pPI",
    "dGAMMAcoGAMMAdPIcN-ARY SUMMATIONaTURNED SANS-SERIF oGeLaREVERSED SANS-SERIF oL",
    "aTURNED SANS-SERIF oYaDOUBLE-STRUCK ITALIC oDdpDeEeIeJaPROPERTY LINEaTURNED AMPERSAND",
    "aPER SIGNaAKTIESELSKABaTURNED pFaSYMBOL FOR SAMARITAN SOURCEaVULGAR FRACTION ONE SEVENTH",
    "dNINTHdTENTHdTHIRDcTWO THIRDScONE FIFTHcTWO FIFTHScTHREE FIFTHScFOUR FIFTHScONE SIXTH",
    "cFIVE SIXTHScONE EIGHTHcTHREE EIGHTHScFIVE EIGHTHScSEVEN EIGHTHSaFRACTION NUMERATOR ONE",
    "aROMAN NUMERAL ONEcTWOcTHREEcFOURcFIVEcSIXcSEVENcEIGHTcNINEcTENcELEVENcTWELVEcFIFTY",
    "cONE HUNDREDcFIVE HUNDREDcONE THOUSANDapROMAN NUMERAL ONEdTWOdTHREEdFOURdFIVEdSIXdSEVEN",
    "dEIGHTdNINEdTENdELEVENdTWELVEdFIFTYdONE HUNDREDdFIVE HUNDREDdONE THOUSAND",
    "aROMAN NUMERAL ONE THOUSAND C DcFIVE THOUSANDcTEN THOUSANDcREVERSED ONE HUNDRED",
    "aLATIN pmREVERSED CaROMAN NUMERAL SIX LATE FORMcFIFTY EARLY FORMdTHOUSAND",
    "cONE HUNDRED THOUSANDaVULGAR FRACTION ZERO THIRDSaTURNED DIGIT TWOcTHREE"]⟩,
  ⟨0x2190,
   ["aLEFTWARDS zaUPWARDS zavzaDOWNWARDS zaxuzaUP DOWN zaNORTH WEST zbEAST zaSOUTH EAST zbWEST z",
    "aLEFTWARDS ARROW nSTROKEavARROW nSTROKEaLEFTWARDS WAVE zavWAVE zaLEFTWARDS TWO HEADED z",
    "aUPWARDS TWO HEADED zavTWO HEADED zaDOWNWARDS TWO HEADED zaLEFTWARDS ARROW nTAIL",
    "avARROW nTAILaLEFTWARDS ARROW FROM BARaUPWARDS ARROW FROM BARavARROW FROM BAR",
    "aDOWNWARDS ARROW FROM BARaUP DOWN ARROW nBASEaLEFTWARDS ARROW nHOOKavARROW nHOOK",
    "aLEFTWARDS ARROW nLOOPavARROW nLOOPaxuWAVE zcARROW nSTROKEaDOWNWARDS ZIGZAG z",
    "aUPWARDS ARROW nTIP LEFTWARDSeRIGHTWARDSaDOWNWARDS ARROW nTIP LEFTWARDSeRIGHTWARDS",
    "avARROW nCORNER DOWNWARDSaDOWNWARDS ARROW nCORNER LEFTWARDSaANTICLOCKWISE TOP SEMICIRCLE z",
    "aCLOCKWISE TOP SEMICIRCLE zaNORTH WEST ARROW TO LONG BAR",
    "aLEFTWARDS ARROW TO BAR OVER vARROW TO BARaANTICLOCKWISE OPEN CIRCLE z",
    "aCLOCKWISE OPEN CIRCLE zaLEFTWARDS HARPOON nBARB UPWARDSeDOWNWARDS",
    "aUPWARDS HARPOON nBARB RIGHTWARDSeLEFTWARDSavHARPOON nBARB UPWARDSeDOWNWARDS",
    "aDOWNWARDS HARPOON nBARB RIGHTWARDSeLEFTWARDSavARROW OVER LEFTWARDS z",
    "aUPWARDS ARROW LEFTWARDS OF DOWNWARDS zaLEFTWARDS ARROW OVER vzbPAIRED ARROWS",
    "aUPWARDS PAIRED ARROWSavPAIRED ARROWSaDOWNWARDS PAIRED ARROWS",
    "aLEFTWARDS HARPOON OVER vHARPOONavHARPOON OVER LEFTWARDS HARPOONaLEFTWARDS wARROW nSTROKE",
    "axuwARROW nSTROKEavwARROW nSTROKEaLEFTWARDS wzaUPWARDS wzavwzaDOWNWARDS wzaxuwzaUP DOWN wz",
    "aNORTH WEST wzbEAST wzaSOUTH EAST wzbWEST wzaLEFTWARDS TRIPLE zavTRIPLE z",
    "aLEFTWARDS SQUIGGLE zavSQUIGGLE zaUPWARDS ARROW nwSTROKEaDOWNWARDS ARROW nwSTROKE",
    "aLEFTWARDS DASHED zaUPWARDS DASHED zavDASHED zaDOWNWARDS DASHED zaLEFTWARDS ARROW TO BAR",
    "avARROW TO BARaLEFTWARDS WHITE zaUPWARDS WHITE zavWHITE zaDOWNWARDS WHITE z",
    "aUPWARDS WHITE ARROW FROM BARdON PEDESTALePEDESTAL nHORIZONTAL BARgVERTICAL BARcwz",
    "dARROW ON PEDESTALavWHITE ARROW FROM WALLaNORTH WEST ARROW TO CORNER",
    "aSOUTH EAST ARROW TO CORNERaUP DOWN WHITE zauARROW npCIRCLE",
    "aDOWNWARDS ARROW LEFTWARDS OF UPWARDS zaTHREE vARROWSaLEFTWARDS ARROW nVERTICAL STROKE",
    "avARROW nVERTICAL STROKEaxuARROW nVERTICAL STROKEaLEFTWARDS ARROW nwVERTICAL STROKE",
    "avARROW nwVERTICAL STROKEaxuARROW nwVERTICAL STROKEaLEFTWARDS OPEN-HEADED zavOPEN-HEADED z",
    "axuOPEN-HEADED zaFOR ALLaCOMPLEMENTaPARTIAL DIFFERENTIALaTHERE EXISTSbDOES NOT EXIST",
    "aEMPTY SETaINCREMENTaNABLAaELEMENT OFaNOT AN ELEMENT OFapELEMENT OFaCONTAINS AS MEMBER",
    "aDOES NOT CONTAIN AS MEMBERapCONTAINS AS MEMBERaEND OF PROOFaN-ARY PRODUCTcCOPRODUCT",
    "cSUMMATIONaMINUS SIGNaMINUS-OR-PLUS SIGNaDOT PLUSaDIVISION SLASHaSET MINUS",
    "aASTERISK OPERATORaRING OPERATORaBULLET OPERATORaSQUARE ROOTaCUBE ROOTaFOURTH ROOT",
    "aPROPORTIONAL TOaINFINITYauANGLEaANGLEaMEASURED ANGLEaSPHERICAL ANGLEaDIVIDES",
    "aDOES NOT DIVIDEaPARALLEL TOaNOT PARALLEL TOaLOGICAL ANDbORaINTERSECTIONaUNIONaINTEGRAL",
    "awINTEGRALaTRIPLE INTEGRALaCONTOUR INTEGRALaSURFACE INTEGRALaVOLUME INTEGRAL",
    "aCLOCKWISE INTEGRALbCONTOUR INTEGRALaANTICLOCKWISE CONTOUR INTEGRALaTHEREFOREaBECAUSEaRATIO",
    "aPROPORTIONaDOT MINUSaEXCESSaGEOMETRIC PROPORTIONaHOMOTHETICaTILDE OPERATORaREVERSED TILDE",
    "aINVERTED LAZY SaSINE WAVEaWREATH PRODUCTaNOT TILDEaMINUS TILDEaASYMPTOTICALLY EQUAL TO",
    "aNOT ASYMPTOTICALLY EQUAL TOaAPPROXIMATELY EQUAL TObBUT NOT ACTUALLY EQUAL TO",
    "aNEITHER APPROXIMATELY NOR ACTUALLY EQUAL TOaALMOST EQUAL TOaNOT ALMOST EQUAL TO",
    "aALMOST EQUAL OR EQUAL TOaTRIPLE TILDEaALL EQUAL TOaEQUIVALENT TO",
    "aGEOMETRICALLY EQUIVALENT TOaDIFFERENCE BETWEENaAPPROACHES THE LIMITaGEOMETRICALLY EQUAL TO",
    "aAPPROXIMATELY EQUAL TO OR THE IMAGE OFaIMAGE OF OR APPROXIMATELY EQUAL TOaCOLON EQUALS",
    "aEQUALS COLONaRING IN EQUAL TObEQUAL TOaCORRESPONDS TOaESTIMATESaEQUIANGULAR TOaSTAR EQUALS",
    "aDELTA EQUAL TOaEQUAL TO BY DEFINITIONaMEASURED BYaQUESTIONED EQUAL TOaNOT EQUAL TO",
    "aIDENTICAL TOaNOT IDENTICAL TOaSTRICTLY EQUIVALENT TOaLESS-THAN OR EQUAL TO",
    "aGREATER-THAN OR EQUAL TOaLESS-THAN OVER EQUAL TOaGREATER-THAN OVER EQUAL TO",
    "aLESS-THAN BUT NOT EQUAL TOaGREATER-THAN BUT NOT EQUAL TOaMUCH LESS-THANbGREATER-THAN",
    "aBETWEENaNOT EQUIVALENT TObLESS-THANbGREATER-THANaNEITHER LESS-THAN NOR EQUAL TO",
    "bGREATER-THAN NOR EQUAL TOaLESS-THAN OR EQUIVALENT TOaGREATER-THAN OR EQUIVALENT TO",
    "aNEITHER LESS-THAN NOR EQUIVALENT TObGREATER-THAN NOR EQUIVALENT TO",
    "aLESS-THAN OR GREATER-THANaGREATER-THAN OR LESS-THANaNEITHER LESS-THAN NOR GREATER-THAN",
    "bGREATER-THAN NOR LESS-THANaPRECEDESaSUCCEEDSaPRECEDES OR EQUAL TOaSUCCEEDS OR EQUAL TO",
    "aPRECEDES OR EQUIVALENT TOaSUCCEEDS OR EQUIVALENT TOaDOES NOT PRECEDEcSUCCEEDaSUBSET OF",
    "aSUPERSET OFaNOT A SUBSET OFcSUPERSET OFaSUBSET OF OR EQUAL TOaSUPERSET OF OR EQUAL TO",
    "aNEITHER A SUBSET OF NOR EQUAL TOcSUPERSET OF NOR EQUAL TOaSUBSET OF nNOT EQUAL TO",
    "aSUPERSET OF nNOT EQUAL TOaMULTISETaMULTISET MULTIPLICATIONbUNIONaSQUARE IMAGE OF",
    "bORIGINAL OFbIMAGE OF OR EQUAL TObORIGINAL OF OR EQUAL TObCAPbCUPaCIRCLED PLUSbMINUSbTIMES",
    "bDIVISION SLASHbDOT OPERATORbRING OPERATORbASTERISK OPERATORbEQUALSbDASHaSQUARED PLUSbMINUS",
    "bTIMESbDOT OPERATORauTACKaxTACKaDOWN TACKaUP TACKaASSERTIONaMODELSaTRUEaFORCES",
    "aTRIPLE VERTICAL BAR uTURNSTILEawVERTICAL BAR wuTURNSTILEaDOES NOT PROVEaNOT TRUE",
    "aDOES NOT FORCEaNEGATED wVERTICAL BAR wuTURNSTILEaPRECEDES UNDER RELATION",
    "aSUCCEEDS UNDER RELATIONaNORMAL SUBGROUP OFaCONTAINS AS NORMAL SUBGROUP",
    "aNORMAL SUBGROUP OF OR EQUAL TOaCONTAINS AS NORMAL SUBGROUP OR EQUAL TOaORIGINAL OF",
    "aIMAGE OFaMULTIMAPaHERMITIAN CONJUGATE MATRIXaINTERCALATEaXORaNANDaNORauANGLE nARCbTRIANGLE",
    "aN-ARY LOGICAL ANDdORcINTERSECTIONcUNIONaDIAMOND OPERATORaDOT OPERATORaSTAR OPERATOR",
    "aDIVISION TIMESaBOWTIEaxNORMAL FACTOR SEMIDIRECT PRODUCTauNORMAL FACTOR SEMIDIRECT PRODUCT",
    "axSEMIDIRECT PRODUCTauSEMIDIRECT PRODUCTaREVERSED TILDE EQUALSaCURLY LOGICAL ORcANDawSUBSET",
    "bSUPERSETbINTERSECTIONbUNIONaPITCHFORKaEQUAL tPARALLEL TOaLESS-THAN nDOTaGREATER-THAN nDOT",
    "aVERY MUCH LESS-THANcGREATER-THANaLESS-THAN EQUAL TO OR GREATER-THAN",
    "aGREATER-THAN EQUAL TO OR LESS-THANaEQUAL TO OR LESS-THANdGREATER-THANdPRECEDESdSUCCEEDS",
    "aDOES NOT PRECEDE OR EQUALcSUCCEED OR EQUALaNOT SQUARE IMAGE OF OR EQUAL TO",
    "cORIGINAL OF OR EQUAL TOaSQUARE IMAGE OF OR NOT EQUAL TObORIGINAL OF OR NOT EQUAL TO",
    "aLESS-THAN BUT NOT EQUIVALENT TOaGREATER-THAN BUT NOT EQUIVALENT TO",
    "aPRECEDES BUT NOT EQUIVALENT TOaSUCCEEDS BUT NOT EQUIVALENT TOaNOT NORMAL SUBGROUP OF",
    "aDOES NOT CONTAIN AS NORMAL SUBGROUPaNOT NORMAL SUBGROUP OF OR EQUAL TO",
    "aDOES NOT CONTAIN AS NORMAL SUBGROUP OR EQUALaVERTICAL ELLIPSISaMIDLINE HORIZONTAL ELLIPSIS",
    "aUP uDIAGONAL ELLIPSISaDOWN uDIAGONAL ELLIPSISaELEMENT OF nLONG HORIZONTAL STROKE",
    "dVERTICAL BAR AT END OF HORIZONTAL STROKE",
    "apELEMENT OF nVERTICAL BAR AT END OF HORIZONTAL STROKEaELEMENT OF nDOT ABOVEdOVERBAR",
    "apELEMENT OF nOVERBARaELEMENT OF nUNDERBARdTWO HORIZONTAL STROKES",
    "aCONTAINS nLONG HORIZONTAL STROKEcVERTICAL BAR AT END OF HORIZONTAL STROKE",
    "apCONTAINS nVERTICAL BAR AT END OF HORIZONTAL STROKEaCONTAINS nOVERBARapCONTAINS nOVERBAR",
    "aZ NOTATION BAG MEMBERSHIPaDIAMETER SIGNaELECTRIC zaHOUSEaUP ARROWHEADaDOWN ARROWHEAD",
    "aPROJECTIVEaPERSPECTIVEaWAVY LINEaxCEILINGauCEILINGaxFLOORauFLOORaBOTTOM uCROPbxCROP",
    "aTOP uCROPbxCROPaREVERSED NOT SIGNaSQUARE LOZENGEaARCaSEGMENTaSECTORaTELEPHONE RECORDER",
    "aPOSITION INDICATORaVIEWDATA SQUAREaPLACE OF INTEREST SIGNaTURNED NOT SIGNaWATCHaHOURGLASS",
    "aTOP xCORNERbuCORNERaBOTTOM xCORNERbuCORNERaTOP HALF INTEGRALaBOTTOM HALF INTEGRALaFROWN",
    "aSMILEaUP ARROWHEAD BETWEEN TWO HORIZONTAL BARSaOPTION KEYaERASE TO THE RIGHT",
    "aX IN A RECTANGLE BOXaKEYBOARDaLEFT-POINTING ANGLE BRACKETaRIGHT-POINTING ANGLE BRACKET",
    "aERASE TO THE LEFTaBENZENE RINGaCYLINDRICITYaALL AROUND-PROFILEaSYMMETRYaTOTAL RUNOUT",
    "aDIMENSION ORIGINaCONICAL TAPERaSLOPEaCOUNTERBOREaCOUNTERSINKaAPL FUNCTIONAL SYMBOL I-BEAM",
    "dSQUISH QUADdQUAD EQUALeDIVIDEeDIAMONDeJOTeCIRCLEdCIRCLE STILEeJOTdSLASH BARdBACKSLASH BAR",
    "dQUAD SLASHeBACKSLASHeLESS-THANeGREATER-THANdLEFTWARDS VANEdvVANEdQUAD LEFTWARDS zevz",
    "dCIRCLE BACKSLASHdDOWN TACK UNDERBARdDELTA STILEdQUAD DOWN CARETeDELTAdDOWN TACK JOT",
    "dUPWARDS VANEdQUAD UPWARDS zdUP TACK OVERBARdDEL STILEdQUAD UP CARETeDELdUP TACK JOT",
    "dDOWNWARDS VANEdQUAD DOWNWARDS zdQUOTE UNDERBARdDELTA UNDERBARdDIAMOND UNDERBAR",
    "dJOT UNDERBARdCIRCLE UNDERBARdUP SHOE JOTdQUOTE QUADdCIRCLE STARdQUAD COLON",
    "dUP TACK DIAERESISdDEL DIAERESISdSTAR DIAERESISdJOT DIAERESISdCIRCLE DIAERESIS",
    "dDOWN SHOE STILEdxSHOE STILEdTILDE DIAERESISdGREATER-THAN DIAERESISdCOMMA BARdDEL TILDE",
    "dZILDEdSTILE TILDEdSEMICOLON UNDERBARdQUAD NOT EQUALeQUESTIONdDOWN CARET TILDE",
    "dUP CARET TILDEdIOTAdRHOdOMEGAdALPHA UNDERBARdEPSILON UNDERBARdIOTA UNDERBARdOMEGA UNDERBAR",
    "dALPHAaNOT CHECK MARKauANGLE nDOWNWARDS ZIGZAG zaSHOULDERED OPEN BOXaBELL SYMBOL",
    "aVERTICAL LINE nMIDDLE DOTaINSERTION SYMBOLaCONTINUOUS UNDERLINE SYMBOL",
    "aDISCONTINUOUS UNDERLINE SYMBOLaEMPHASIS SYMBOLaCOMPOSITION SYMBOL",
    "aWHITE SQUARE nCENTRE VERTICAL LINEaENTER SYMBOLaALTERNATIVE KEY SYMBOLaHELM SYMBOL",
    "aCIRCLED HORIZONTAL BAR nNOTCHbTRIANGLE DOWNaBROKEN CIRCLE nNORTHWEST zaUNDO SYMBOL",
    "aMONOSTABLE SYMBOLaHYSTERESIS SYMBOLaOPEN-CIRCUIT-OUTPUT H-TYPE SYMBOLdL-TYPE SYMBOL",
    "aPASSIVE-PULL-DOWN-OUTPUT SYMBOLcUP-OUTPUT SYMBOLaDIRECT CURRENT SYMBOL FORM TWO",
    "aSOFTWARE-FUNCTION SYMBOLaAPL FUNCTIONAL SYMBOL QUADaDECIMAL SEPARATOR KEY SYMBOL",
    "aPREVIOUS PAGEaNEXT PAGEaPRINT SCREEN SYMBOLaCLEAR SCREEN SYMBOLaxPARENTHESIS UPPER HOOK",
    "cEXTENSIONcLOWER HOOKauPARENTHESIS UPPER HOOKcEXTENSIONcLOWER HOOK",
    "axSQUARE BRACKET UPPER CORNERdEXTENSIONdLOWER CORNERauSQUARE BRACKET UPPER CORNERdEXTENSION",
    "dLOWER CORNERaxCURLY BRACKET UPPER HOOKdMIDDLE PIECEdLOWER HOOKaCURLY BRACKET EXTENSION",
    "auCURLY BRACKET UPPER HOOKdMIDDLE PIECEdLOWER HOOKaINTEGRAL EXTENSION",
    "aHORIZONTAL LINE EXTENSIONaUPPER xOR LOWER uCURLY BRACKET SECTION",
    "buOR LOWER xCURLY BRACKET SECTIONaSUMMATION TOPbBOTTOMaTOP SQUARE BRACKET",
    "aBOTTOM SQUARE BRACKETcBRACKET OVER TOP SQUARE BRACKETaRADICAL SYMBOL BOTTOM",
    "axVERTICAL BOX LINEauVERTICAL BOX LINEaHORIZONTAL SCAN LINE-1d3d7d9",
    "aDENTISTRY SYMBOL LIGHT VERTICAL tTOP RIGHTfBOTTOM RIGHTenCIRCLEdDOWN tHORIZONTAL nCIRCLE",
    "dUP tHORIZONTAL nCIRCLEdVERTICAL nTRIANGLEdDOWN tHORIZONTAL nTRIANGLE",
    "dUP tHORIZONTAL nTRIANGLEdVERTICAL tWAVEdDOWN tHORIZONTAL nWAVEdUP tHORIZONTAL nWAVE",
    "dDOWN tHORIZONTALdUP tHORIZONTALdVERTICAL tTOP LEFTfBOTTOM LEFTaSQUARE FOOTaRETURN SYMBOL",
    "aEJECT SYMBOLaVERTICAL LINE EXTENSIONaMETRICAL BREVEbLONG OVER SHORTbSHORT OVER LONG",
    "bLONG OVER TWO SHORTSbTWO SHORTS OVER LONGdJOINEDbTRISEMEbTETRASEMEbPENTASEMEaEARTH GROUND",
    "aFUSEaTOP PARENTHESISaBOTTOM PARENTHESISaTOP CURLY BRACKETaBOTTOM CURLY BRACKET",
    "aTOP TORTOISE SHELL BRACKETaBOTTOM TORTOISE SHELL BRACKETaWHITE TRAPEZIUM",
    "aBENZENE RING nCIRCLEaSTRAIGHTNESSaFLATNESSaAC CURRENTaELECTRICAL INTERSECTION",
    "aDECIMAL EXPONENT SYMBOLaBLACK RIGHT-POINTING wTRIANGLEbLEFT-POINTING wTRIANGLE",
    "bUP-POINTING wTRIANGLEbDOWN-POINTING wTRIANGLEbRIGHT-POINTING wTRIANGLE nVERTICAL BAR",
    "bLEFT-POINTING wTRIANGLE nVERTICAL BARbRIGHT-POINTING TRIANGLE nwVERTICAL BARaALARM CLOCK",
    "aSTOPWATCHaTIMER CLOCKaHOURGLASS nFLOWING SANDaBLACK MEDIUM LEFT-POINTING TRIANGLE",
    "cRIGHT-POINTING TRIANGLEcUP-POINTING TRIANGLEcDOWN-POINTING TRIANGLEawVERTICAL BAR",
    "aBLACK SQUARE FOR STOPbCIRCLE FOR RECORDaPOWER SYMBOLbON-OFF SYMBOLbON SYMBOLbSLEEP SYMBOL",
    "aOBSERVER EYE SYMBOLaSYMBOL FOR NULLcSTART OF HEADINGeTEXTcEND OF TEXTeTRANSMISSIONcENQUIRY",
    "cACKNOWLEDGEcBELLcBACKSPACEcHORIZONTAL TABULATIONcLINE FEEDcVERTICAL TABULATIONcFORM FEED",
    "cCARRIAGE RETURNcSHIFT OUTdINcDATA LINK ESCAPEcDEVICE CONTROL ONEeTWOeTHREEeFOUR",
    "cNEGATIVE ACKNOWLEDGEcSYNCHRONOUS IDLEcEND OF TRANSMISSION BLOCKcCANCELcEND OF MEDIUM",
    "cSUBSTITUTEcESCAPEcFILE SEPARATORcGROUP SEPARATORcRECORD SEPARATORcUNIT SEPARATORcSPACE",
    "cDELETEaBLANK SYMBOLaOPEN BOXaSYMBOL FOR NEWLINEcDELETE FORM TWOcSUBSTITUTE FORM TWO"]⟩,
  ⟨0x2440,
   ["aOCR HOOKbCHAIRbFORKbINVERTED FORKbBELT BUCKLEbBOW TIEbBRANCH BANK IDENTIFICATION",
    "bAMOUNT OF CHECKbDASHbCUSTOMER ACCOUNT NUMBERbwBACKSLASH"]⟩,
  ⟨0x2460,
   ["aCIRCLED DIGIT ONEcTWOcTHREEcFOURcFIVEcSIXcSEVENcEIGHTcNINEbNUMBER TENcELEVENcTWELVE",
    "cTHIRTEENcFOURTEENcFIFTEENcSIXTEENcSEVENTEENcEIGHTEENcNINETEENcTWENTY",
    "aPARENTHESIZED DIGIT ONEcTWOcTHREEcFOURcFIVEcSIXcSEVENcEIGHTcNINEbNUMBER TENcELEVENcTWELVE",
    "cTHIRTEENcFOURTEENcFIFTEENcSIXTEENcSEVENTEENcEIGHTEENcNINETEENcTWENTYaDIGIT ONE FULL STOP",
    "bTWO FULL STOPbTHREE FULL STOPbFOUR FULL STOPbFIVE FULL STOPbSIX FULL STOPbSEVEN FULL STOP",
    "bEIGHT FULL STOPbNINE FULL STOPaNUMBER TEN FULL STOPbELEVEN FULL STOPbTWELVE FULL STOP",
    "bTHIRTEEN FULL STOPbFOURTEEN FULL STOPbFIFTEEN FULL STOPbSIXTEEN FULL STOP",
    "bSEVENTEEN FULL STOPbEIGHTEEN FULL STOPbNINETEEN FULL STOPbTWENTY FULL STOP",
    "aPARENTHESIZED LATIN pmAeBeCeDeEeFeGeHeIeJeKeLeMeNeOePeQeReSeTeUeVeWeXeYeZ",
    "aCIRCLED LATIN omAeBeCeDeEeFeGeHeIeJeKeLeMeNeOePeQeReSeTeUeVeWeXeYeZcpmAeBeCeDeEeFeGeHeIeJ",
    "eKeLeMeNeOePeQeReSeTeUeVeWeXeYeZbDIGIT ZEROaNEGATIVE CIRCLED NUMBER ELEVENdTWELVEdTHIRTEEN",
    "dFOURTEENdFIFTEENdSIXTEENdSEVENTEENdEIGHTEENdNINETEENdTWENTYawCIRCLED DIGIT ONEdTWOdTHREE",
    "dFOURdFIVEdSIXdSEVENdEIGHTdNINEcNUMBER TENaNEGATIVE CIRCLED DIGIT ZERO",
    "aBOX DRAWINGS LIGHT HORIZONTALcHEAVY HORIZONTALcLIGHT VERTICALcHEAVY VERTICAL",
    "cLIGHT TRIPLE DASH HORIZONTALcHEAVY TRIPLE DASH HORIZONTALcLIGHT TRIPLE DASH VERTICAL",
    "cHEAVY TRIPLE DASH VERTICALcLIGHT QUADRUPLE DASH HORIZONTALcHEAVY QUADRUPLE DASH HORIZONTAL",
    "cLIGHT QUADRUPLE DASH VERTICALcHEAVY QUADRUPLE DASH VERTICALcLIGHT DOWN tRIGHT",
    "cDOWN LIGHT tuHEAVYdHEAVY tuLIGHTcHEAVY DOWN tRIGHTcLIGHT DOWN tLEFTcDOWN LIGHT txHEAVY",
    "dHEAVY txLIGHTcHEAVY DOWN tLEFTcLIGHT UP tRIGHTcUP LIGHT tuHEAVYdHEAVY tuLIGHT",
    "cHEAVY UP tRIGHTcLIGHT UP tLEFTcUP LIGHT txHEAVYdHEAVY txLIGHTcHEAVY UP tLEFT",
    "cLIGHT VERTICAL tRIGHTcVERTICAL LIGHT tuHEAVYcUP HEAVY tuDOWN LIGHTcDOWN HEAVY tuUP LIGHT",
    "cVERTICAL HEAVY tuLIGHTcDOWN LIGHT tuUP HEAVYcUP LIGHT tuDOWN HEAVYcHEAVY VERTICAL tRIGHT",
    "cLIGHT VERTICAL tLEFTcVERTICAL LIGHT txHEAVYcUP HEAVY txDOWN LIGHTcDOWN HEAVY txUP LIGHT",
    "cVERTICAL HEAVY txLIGHTcDOWN LIGHT txUP HEAVYcUP LIGHT txDOWN HEAVYcHEAVY VERTICAL tLEFT",
    "cLIGHT DOWN tHORIZONTALcxHEAVY tuDOWN LIGHTcuHEAVY txDOWN LIGHT",
    "cDOWN LIGHT tHORIZONTAL HEAVYdHEAVY tHORIZONTAL LIGHTcuLIGHT txDOWN HEAVY",
    "cxLIGHT tuDOWN HEAVYcHEAVY DOWN tHORIZONTALcLIGHT UP tHORIZONTALcxHEAVY tuUP LIGHT",
    "cuHEAVY txUP LIGHTcUP LIGHT tHORIZONTAL HEAVYdHEAVY tHORIZONTAL LIGHTcuLIGHT txUP HEAVY",
    "cxLIGHT tuUP HEAVYcHEAVY UP tHORIZONTALcLIGHT VERTICAL tHORIZONTALcxHEAVY tuVERTICAL LIGHT",
    "cuHEAVY txVERTICAL LIGHTcVERTICAL LIGHT tHORIZONTAL HEAVYcUP HEAVY tDOWN HORIZONTAL LIGHT",
    "cDOWN HEAVY tUP HORIZONTAL LIGHTcVERTICAL HEAVY tHORIZONTAL LIGHTcxUP HEAVY tuDOWN LIGHT",
    "cuUP HEAVY txDOWN LIGHTcxDOWN HEAVY tuUP LIGHTcuDOWN HEAVY txUP LIGHT",
    "cDOWN LIGHT tUP HORIZONTAL HEAVYcUP LIGHT tDOWN HORIZONTAL HEAVYcuLIGHT txVERTICAL HEAVY",
    "cxLIGHT tuVERTICAL HEAVYcHEAVY VERTICAL tHORIZONTALcLIGHT wDASH HORIZONTAL",
    "cHEAVY wDASH HORIZONTALcLIGHT wDASH VERTICALcHEAVY wDASH VERTICALcwHORIZONTALdVERTICAL",
    "cDOWN SINGLE tuDOUBLEdwtuSINGLEcwDOWN tRIGHTcDOWN SINGLE txDOUBLEdwtxSINGLEcwDOWN tLEFT",
    "cUP SINGLE tuDOUBLEdwtuSINGLEcwUP tRIGHTcUP SINGLE txDOUBLEdwtxSINGLEcwUP tLEFT",
    "cVERTICAL SINGLE tuDOUBLEdwtuSINGLEcwVERTICAL tRIGHTcVERTICAL SINGLE txDOUBLEdwtxSINGLE",
    "cwVERTICAL tLEFTcDOWN SINGLE tHORIZONTAL DOUBLEdwtHORIZONTAL SINGLEcwDOWN tHORIZONTAL",
    "cUP SINGLE tHORIZONTAL DOUBLEdwtHORIZONTAL SINGLEcwUP tHORIZONTAL",
    "cVERTICAL SINGLE tHORIZONTAL DOUBLEdwtHORIZONTAL SINGLEcwVERTICAL tHORIZONTAL",
    "cLIGHT ARC DOWN tRIGHTgLEFTeUP tLEFTgRIGHTdDIAGONAL UPPER uTO LOWER LEFTfxTO LOWER RIGHT",
    "eCROSSdLEFTdUPdRIGHTdDOWNcHEAVY LEFTdUPdRIGHTdDOWNcLIGHT xtHEAVY RIGHTdUP tHEAVY DOWN",
    "cHEAVY xtLIGHT RIGHTdUP tLIGHT DOWNaUPPER HALF BLOCKaLOWER ONE EIGHTH BLOCKcQUARTER BLOCK",
    "bTHREE EIGHTHS BLOCKbHALF BLOCKbFIVE EIGHTHS BLOCKbTHREE QUARTERS BLOCKbSEVEN EIGHTHS BLOCK",
    "aFULL BLOCKaxSEVEN EIGHTHS BLOCKbTHREE QUARTERS BLOCKbFIVE EIGHTHS BLOCKbHALF BLOCK",
    "bTHREE EIGHTHS BLOCKbONE QUARTER BLOCKcEIGHTH BLOCKauHALF BLOCKaLIGHT SHADEaMEDIUM SHADE",
    "aDARK SHADEaUPPER ONE EIGHTH BLOCKauONE EIGHTH BLOCKaQUADRANT LOWER LEFTcRIGHTbUPPER LEFT",
    "cxtLOWER xtLOWER RIGHTfRIGHTeUPPER utLOWER LEFTiRIGHTcRIGHTcutLOWER LEFTfxtLOWER RIGHT",
    "aBLACK SQUAREaWHITE SQUAREbSQUARE nROUNDED CORNERScCONTAINING BLACK pSQUARE",
    "aSQUARE nHORIZONTAL FILLcVERTICAL FILLcORTHOGONAL CROSSHATCH FILLcUPPER xTO LOWER uFILL",
    "duTO LOWER xFILLcDIAGONAL CROSSHATCH FILLaBLACK pSQUAREaWHITE pSQUAREaBLACK RECTANGLE",
    "aWHITE RECTANGLEaBLACK VERTICAL RECTANGLEaWHITE VERTICAL RECTANGLEaBLACK PARALLELOGRAM",
    "aWHITE PARALLELOGRAMaBLACK UP-POINTING TRIANGLEaWHITE UP-POINTING TRIANGLE",
    "aBLACK UP-POINTING pTRIANGLEaWHITE UP-POINTING pTRIANGLEaBLACK RIGHT-POINTING TRIANGLE",
    "aWHITE RIGHT-POINTING TRIANGLEaBLACK RIGHT-POINTING pTRIANGLE",
    "aWHITE RIGHT-POINTING pTRIANGLEaBLACK RIGHT-POINTING POINTERaWHITE RIGHT-POINTING POINTER",
    "aBLACK DOWN-POINTING TRIANGLEaWHITE DOWN-POINTING TRIANGLEaBLACK DOWN-POINTING pTRIANGLE",
    "aWHITE DOWN-POINTING pTRIANGLEaBLACK LEFT-POINTING TRIANGLEaWHITE LEFT-POINTING TRIANGLE",
    "aBLACK LEFT-POINTING pTRIANGLEaWHITE LEFT-POINTING pTRIANGLEaBLACK LEFT-POINTING POINTER",
    "aWHITE LEFT-POINTING POINTERaBLACK DIAMONDaWHITE DIAMONDbDIAMOND CONTAINING BLACK pDIAMOND",
    "aFISHEYEaLOZENGEaWHITE CIRCLEaDOTTED CIRCLEaCIRCLE nVERTICAL FILLaBULLSEYEaBLACK CIRCLE",
    "aCIRCLE nxHALF BLACKcuHALF BLACKcLOWER HALF BLACKcUPPER HALF BLACKduQUADRANT BLACK",
    "cALL BUT UPPER xQUADRANT BLACKaxHALF BLACK CIRCLEauHALF BLACK CIRCLEaINVERSE BULLET",
    "bWHITE CIRCLEaUPPER HALF INVERSE WHITE CIRCLEaLOWER HALF INVERSE WHITE CIRCLE",
    "aUPPER xQUADRANT CIRCULAR ARCbuQUADRANT CIRCULAR ARCaLOWER uQUADRANT CIRCULAR ARC",
    "bxQUADRANT CIRCULAR ARCaUPPER HALF CIRCLEaLOWER HALF CIRCLEaBLACK LOWER uTRIANGLEcxTRIANGLE",
    "bUPPER xTRIANGLEcuTRIANGLEaWHITE BULLETaSQUARE nxHALF BLACKcuHALF BLACK",
    "cUPPER xDIAGONAL HALF BLACKcLOWER uDIAGONAL HALF BLACK",
    "aWHITE SQUARE nVERTICAL BISECTING LINEbUP-POINTING TRIANGLE nDOT",
    "aUP-POINTING TRIANGLE nxHALF BLACKeuHALF BLACKaLARGE CIRCLEaWHITE SQUARE nUPPER xQUADRANT",
    "dLOWER xQUADRANTeuQUADRANTdUPPER uQUADRANTbCIRCLE nUPPER xQUADRANTdLOWER xQUADRANT",
    "euQUADRANTdUPPER uQUADRANTaUPPER xTRIANGLEbuTRIANGLEaLOWER xTRIANGLEaWHITE MEDIUM SQUARE",
    "aBLACK MEDIUM SQUAREaWHITE MEDIUM pSQUAREaBLACK MEDIUM pSQUAREaLOWER uTRIANGLE",
    "aBLACK SUN nRAYSaCLOUDaUMBRELLAaSNOWMANaCOMETaBLACK STARaWHITE STARaLIGHTNINGaTHUNDERSTORM",
    "aSUNaASCENDING NODEaDESCENDING NODEaCONJUNCTIONaOPPOSITIONaBLACK TELEPHONEaWHITE TELEPHONE",
    "aBALLOT BOXbBOX nCHECKdXaSALTIREaUMBRELLA nRAIN DROPSaHOT BEVERAGEaWHITE SHOGI PIECE",
    "aBLACK SHOGI PIECEaSHAMROCKaREVERSED ROTATED FLORAL HEART BULLETaBLACK xPOINTING INDEX",
    "buPOINTING INDEXaWHITE xPOINTING INDEXbUP POINTING INDEXbuPOINTING INDEX",
    "bDOWN POINTING INDEXaSKULL tCROSSBONESaCAUTION SIGNaRADIOACTIVE SIGNaBIOHAZARD SIGN",
    "aCADUCEUSaANKHaORTHODOX CROSSaCHI RHOaCROSS OF LORRAINEcJERUSALEMaSTAR tCRESCENT",
    "aFARSI SYMBOLaADI SHAKTIaHAMMER tSICKLEaPEACE SYMBOLaYIN YANGaTRIGRAM FOR HEAVENcLAKEcFIRE",
    "cTHUNDERcWINDcWATERcMOUNTAINcEARTHaWHEEL OF DHARMAaWHITE FROWNING FACEbSMILING FACE",
    "aBLACK SMILING FACEaWHITE SUN nRAYSaFIRST QUARTER MOONaLAST QUARTER MOONaMERCURY",
    "aFEMALE SIGNaEARTHaMALE SIGNaJUPITERaSATURNaURANUSaNEPTUNEaPLUTOaARIESaTAURUSaGEMINIaCANCER",
    "aLEOaVIRGOaLIBRAaSCORPIUSaSAGITTARIUSaCAPRICORNaAQUARIUSaPISCESaWHITE CHESS KINGcQUEENcROOK",
    "cBISHOPcKNIGHTcPAWNaBLACK CHESS KINGcQUEENcROOKcBISHOPcKNIGHTcPAWNbSPADE SUIT",
    "aWHITE HEART SUITbDIAMOND SUITaBLACK CLUB SUITaWHITE SPADE SUITaBLACK HEART SUIT",
    "bDIAMOND SUITaWHITE CLUB SUITaHOT SPRINGSaQUARTER NOTEaEIGHTH NOTEaBEAMED EIGHTH NOTES",
    "bSIXTEENTH NOTESaMUSIC FLAT SIGNbNATURAL SIGNbSHARP SIGNaWEST SYRIAC CROSS",
    "aEAST SYRIAC CROSSaUNIVERSAL RECYCLING SYMBOLaRECYCLING SYMBOL FOR TYPE-1 PLASTICS",
    "e2 PLASTICSe3 PLASTICSe4 PLASTICSe5 PLASTICSe6 PLASTICSe7 PLASTICSdGENERIC MATERIALS",
    "aBLACK UNIVERSAL RECYCLING SYMBOLaRECYCLED PAPER SYMBOLaPARTIALLY-RECYCLED PAPER SYMBOL",
    "aPERMANENT PAPER SIGNaWHEELCHAIR SYMBOLaDIE FACE-1c2c3c4c5c6aWHITE CIRCLE nDOT RIGHT",
    "dTWO DOTSaBLACK CIRCLE nWHITE DOT RIGHTdTWO WHITE DOTSaMONOGRAM FOR YANGcYIN",
    "aDIGRAM FOR GREATER YANGcLESSER YINdYANGcGREATER YINaWHITE FLAGaBLACK FLAGaHAMMER tPICK",
    "aANCHORaCROSSED SWORDSaSTAFF OF AESCULAPIUSaSCALESaALEMBICaFLOWERaGEARaSTAFF OF HERMES",
    "aATOM SYMBOLaFLEUR-DE-LISaOUTLINED WHITE STARaTHREE LINES CONVERGING RIGHTdLEFT",
    "aWARNING SIGNaHIGH VOLTAGE SIGNaDOUBLED FEMALE SIGNbMALE SIGNaINTERLOCKED FEMALE tMALE SIGN",
    "aMALE tFEMALE SIGNbnSTROKE SIGNdtMALE tFEMALE SIGNaVERTICAL MALE nSTROKE SIGN",
    "aHORIZONTAL MALE nSTROKE SIGNaMEDIUM WHITE CIRCLEbBLACK CIRCLEbpWHITE CIRCLE",
    "aMARRIAGE SYMBOLaDIVORCE SYMBOLaUNMARRIED PARTNERSHIP SYMBOLaCOFFINaFUNERAL URNaNEUTER",
    "aCERESaPALLASaJUNOaVESTAaCHIRONaBLACK MOON LILITHaSEXTILEaSEMISEXTILEaQUINCUNX",
    "aSESQUIQUADRATEaSOCCER BALLaBASEBALLaSQUARED KEYaWHITE DRAUGHTS MANcKINGaBLACK DRAUGHTS MAN",
    "cKINGaSNOWMAN WITHOUT SNOWaSUN BEHIND CLOUDaRAINaBLACK SNOWMANaTHUNDER CLOUD tRAIN",
    "aTURNED WHITE SHOGI PIECEbBLACK SHOGI PIECEaWHITE DIAMOND IN SQUAREaCROSSING LANES",
    "aDISABLED CARaOPHIUCHUSaPICKaCAR SLIDINGaHELMET nWHITE CROSSaCIRCLED CROSSING LANESaCHAINS",
    "aNO ENTRYaALTERNATE ONE-WAY xWAY TRAFFICaBLACK TWO-WAY xWAY TRAFFIC",
    "aWHITE TWO-WAY xWAY TRAFFICaBLACK xLANE MERGEaWHITE xLANE MERGEaDRIVE SLOW SIGN",
    "aHEAVY WHITE DOWN-POINTING TRIANGLEaxCLOSED ENTRYaSQUARED SALTIRE",
    "aFALLING DIAGONAL IN WHITE CIRCLE IN BLACK SQUAREaBLACK TRUCKaRESTRICTED xENTRY-1d2",
    "aASTRONOMICAL SYMBOL FOR URANUSaHEAVY CIRCLE nSTROKE tTWO DOTS ABOVEaPENTAGRAM",
    "aRIGHT-HANDED INTERLACED PENTAGRAMaLEFT-HANDED INTERLACED PENTAGRAMaINVERTED PENTAGRAM",
    "aBLACK CROSS ON SHIELDaSHINTO SHRINEaCHURCHaCASTLEaHISTORIC SITEaGEAR WITHOUT HUBbnHANDLES",
    "aMAP SYMBOL FOR LIGHTHOUSEaMOUNTAINaUMBRELLA ON GROUNDaFOUNTAINaFLAG IN HOLEaFERRYaSAILBOAT",
    "aSQUARE FOUR CORNERSaSKIERaICE SKATEaPERSON nBALLaTENTaJAPANESE BANK SYMBOL",
    "aHEADSTONE GRAVEYARD SYMBOLaFUEL PUMPaCUP ON BLACK SQUARE",
    "aWHITE FLAG nHORIZONTAL MIDDLE BLACK STRIPEaBLACK SAFETY SCISSORSaUPPER BLADE SCISSORS",
    "aBLACK SCISSORSaLOWER BLADE SCISSORSaWHITE SCISSORSbHEAVY CHECK MARK",
    "aTELEPHONE LOCATION SIGNaTAPE DRIVEaAIRPLANEaENVELOPEaRAISED FISTbHANDaVICTORY HAND",
    "aWRITING HANDaLOWER uPENCILaPENCILaUPPER uPENCILaWHITE NIBaBLACK NIBaCHECK MARK",
    "aHEAVY CHECK MARKaMULTIPLICATION XaHEAVY MULTIPLICATION XaBALLOT XaHEAVY BALLOT X",
    "aOUTLINED GREEK CROSSaHEAVY GREEK CROSSaOPEN CENTRE CROSSaHEAVY OPEN CENTRE CROSS",
    "aLATIN CROSSaSHADOWED WHITE LATIN CROSSaOUTLINED LATIN CROSSaMALTESE CROSSaSTAR OF DAVID",
    "aFOUR TEARDROP-SPOKED ASTERISKbBALLOON-SPOKED ASTERISKaHEAVY FOUR BALLOON-SPOKED ASTERISK",
    "aFOUR CLUB-SPOKED ASTERISKaBLACK FOUR POINTED STARaWHITE FOUR POINTED STARaSPARKLES",
    "aSTRESS OUTLINED WHITE STARaCIRCLED WHITE STARaOPEN CENTRE BLACK STAR",
    "aBLACK CENTRE WHITE STARaOUTLINED BLACK STARaHEAVY OUTLINED BLACK STARaPINWHEEL STAR",
    "aSHADOWED WHITE STARaHEAVY ASTERISKaOPEN CENTRE ASTERISKaEIGHT SPOKED ASTERISK",
    "bPOINTED BLACK STARcPINWHEEL STARaSIX POINTED BLACK STAR",
    "aEIGHT POINTED RECTILINEAR BLACK STARaHEAVY EIGHT POINTED RECTILINEAR BLACK STAR",
    "aTWELVE POINTED BLACK STARaSIXTEEN POINTED ASTERISKaTEARDROP-SPOKED ASTERISK",
    "aOPEN CENTRE TEARDROP-SPOKED ASTERISKaHEAVY TEARDROP-SPOKED ASTERISK",
    "aSIX PETALLED BLACK tWHITE FLORETTEaBLACK FLORETTEaWHITE FLORETTE",
    "aEIGHT PETALLED OUTLINED BLACK FLORETTEaCIRCLED OPEN CENTRE EIGHT POINTED STAR",
    "aHEAVY TEARDROP-SPOKED PINWHEEL ASTERISKaSNOWFLAKEaTIGHT TRIFOLIATE SNOWFLAKE",
    "aHEAVY CHEVRON SNOWFLAKEaSPARKLEaHEAVY SPARKLEaBALLOON-SPOKED ASTERISK",
    "aEIGHT TEARDROP-SPOKED PROPELLER ASTERISKaHEAVY EIGHT TEARDROP-SPOKED PROPELLER ASTERISK",
    "aCROSS MARKaSHADOWED WHITE CIRCLEaNEGATIVE SQUARED CROSS MARK",
    "aLOWER uDROP-SHADOWED WHITE SQUAREaUPPER uDROP-SHADOWED WHITE SQUARE",
    "aLOWER uSHADOWED WHITE SQUAREaUPPER uSHADOWED WHITE SQUAREaBLACK QUESTION MARK ORNAMENT",
    "aWHITE QUESTION MARK ORNAMENTbEXCLAMATION MARK ORNAMENTaBLACK DIAMOND MINUS WHITE X",
    "aHEAVY EXCLAMATION MARK SYMBOLaLIGHT VERTICAL BARaMEDIUM VERTICAL BARaHEAVY VERTICAL BAR",
    "bSINGLE TURNED COMMA QUOTATION MARK ORNAMENTcCOMMA QUOTATION MARK ORNAMENT",
    "bwTURNED COMMA QUOTATION MARK ORNAMENTcCOMMA QUOTATION MARK ORNAMENT",
    "bLOW SINGLE COMMA QUOTATION MARK ORNAMENTcwCOMMA QUOTATION MARK ORNAMENT",
    "aCURVED STEM PARAGRAPH yORNAMENTaHEAVY EXCLAMATION MARK ORNAMENT",
    "bHEART EXCLAMATION MARK ORNAMENTbBLACK HEARTaROTATED HEAVY BLACK HEART BULLETaFLORAL HEART",
    "aROTATED FLORAL HEART BULLETaMEDIUM xPARENTHESIS ORNAMENTbuPARENTHESIS ORNAMENT",
    "bFLATTENED xPARENTHESIS ORNAMENTcuPARENTHESIS ORNAMENTbLEFT-POINTING ANGLE BRACKET ORNAMENT",
    "bRIGHT-POINTING ANGLE BRACKET ORNAMENTaHEAVY LEFT-POINTING ANGLE QUOTATION MARK ORNAMENT",
    "bRIGHT-POINTING ANGLE QUOTATION MARK ORNAMENTbLEFT-POINTING ANGLE BRACKET ORNAMENT",
    "bRIGHT-POINTING ANGLE BRACKET ORNAMENTaLIGHT xTORTOISE SHELL BRACKET ORNAMENT",
    "buTORTOISE SHELL BRACKET ORNAMENTaMEDIUM xCURLY BRACKET ORNAMENTbuCURLY BRACKET ORNAMENT",
    "aDINGBAT NEGATIVE CIRCLED DIGIT ONEeTWOeTHREEeFOUReFIVEeSIXeSEVENeEIGHTeNINEdNUMBER TEN",
    "bCIRCLED SANS-SERIF DIGIT ONEfTWOfTHREEfFOURfFIVEfSIXfSEVENfEIGHTfNINEeNUMBER TEN",
    "bNEGATIVE CIRCLED SANS-SERIF DIGIT ONEgTWOgTHREEgFOURgFIVEgSIXgSEVENgEIGHTgNINEfNUMBER TEN",
    "aHEAVY WIDE-HEADED vzbPLUS SIGNbMINUS SIGNbDIVISION SIGNbSOUTH EAST zbvzbNORTH EAST z",
    "aDRAFTING POINT vzaHEAVY ROUND-TIPPED vzaTRIANGLE-HEADED vzaHEAVY TRIANGLE-HEADED vz",
    "aDASHED TRIANGLE-HEADED vzaHEAVY DASHED TRIANGLE-HEADED vzaBLACK vz",
    "aTHREE-D TOP-LIGHTED vARROWHEADcBOTTOM-LIGHTED vARROWHEADaBLACK vARROWHEAD",
    "aHEAVY BLACK CURVED DOWNWARDS tvzdUPWARDS tvzaSQUAT BLACK vzaHEAVY CONCAVE-POINTED BLACK vz",
    "aRIGHT-SHADED WHITE vzaLEFT-SHADED WHITE vzaBACK-TILTED SHADOWED WHITE vz",
    "aFRONT-TILTED SHADOWED WHITE vzaHEAVY LOWER RIGHT-SHADOWED WHITE vz",
    "bUPPER RIGHT-SHADOWED WHITE vzaNOTCHED LOWER RIGHT-SHADOWED WHITE vzaCURLY LOOP",
    "aNOTCHED UPPER RIGHT-SHADOWED WHITE vzaCIRCLED HEAVY WHITE vzaWHITE-FEATHERED vz",
    "aBLACK-FEATHERED SOUTH EAST zcvzcNORTH EAST zaHEAVY BLACK-FEATHERED SOUTH EAST zdvz",
    "dNORTH EAST zaTEARDROP-BARBED vzaHEAVY TEARDROP-SHANKED vzaWEDGE-TAILED vz",
    "aHEAVY WEDGE-TAILED vzaOPEN-OUTLINED vzawCURLY LOOPaTHREE DIMENSIONAL ANGLE",
    "aWHITE TRIANGLE CONTAINING pWHITE TRIANGLEaPERPENDICULARaOPEN SUBSETbSUPERSET",
    "axS-SHAPED BAG DELIMITERauS-SHAPED BAG DELIMITERaOR nDOT INSIDE",
    "aREVERSE SOLIDUS PRECEDING SUBSETaSUPERSET PRECEDING SOLIDUS",
    "aVERTICAL BAR nHORIZONTAL STROKEaMATHEMATICAL RISING DIAGONALaLONG DIVISION",
    "aMATHEMATICAL FALLING DIAGONALaSQUARED LOGICAL ANDcORaWHITE DIAMOND nCENTRED DOTatnDOT",
    "aELEMENT OF OPENING UPWARDSaLOWER uCORNER nDOTaUPPER xCORNER nDOTaxOUTER JOINauOUTER JOIN",
    "aFULL OUTER JOINaLARGE UP TACKbDOWN TACKaxtuwTURNSTILEdTACKbMULTIMAPaLONG uTACKbxTACK",
    "aUP TACK nCIRCLE ABOVEaLOZENGE DIVIDED BY HORIZONTAL RULEaWHITE CONCAVE-SIDED DIAMOND",
    "dDIAMOND nLEFTWARDS TICKfvTICKbSQUARE nLEFTWARDS TICKdvTICK",
    "aMATHEMATICAL xWHITE SQUARE BRACKETbuWHITE SQUARE BRACKETbxANGLE BRACKETbuANGLE BRACKET",
    "bxwANGLE BRACKETbuwANGLE BRACKETbxWHITE TORTOISE SHELL BRACKET",
    "buWHITE TORTOISE SHELL BRACKETbxFLATTENED PARENTHESISbuFLATTENED PARENTHESIS",
    "aUPWARDS QUADRUPLE zaDOWNWARDS QUADRUPLE zaANTICLOCKWISE GAPPED CIRCLE z",
    "aCLOCKWISE GAPPED CIRCLE zauARROW nCIRCLED PLUSaLONG LEFTWARDS zbvzbxuzbLEFTWARDS wzbvwz",
    "bxuwzbLEFTWARDS ARROW FROM BARbvARROW FROM BARbLEFTWARDS wARROW FROM BARbvwARROW FROM BAR",
    "cSQUIGGLE zaBRAILLE PATTERN BLANKcDOTS-1d2d12d3d13d23d123d4d14d24d124d34d134d234d1234d5d15",
    "d25d125d35d135d235d1235d45d145d245d1245d345d1345d2345d12345d6d16d26d126d36d136d236d1236d46",
    "d146d246d1246d346d1346d2346d12346d56d156d256d1256d356d1356d2356d12356d456d1456d2456d12456",
    "d3456d13456d23456d123456d7d17d27d127d37d137d237d1237d47d147d247d1247d347d1347d2347d12347d57",
    "d157d257d1257d357d1357d2357d12357d457d1457d2457d12457d3457d13457d23457d123457d67d167d267",
    "d1267d367d1367d2367d12367d467d1467d2467d12467d3467d13467d23467d123467d567d1567d2567d12567",
    "d3567d13567d23567d123567d4567d14567d24567d124567d34567d134567d234567d1234567d8d18d28d128d38",
    "d138d238d1238d48d148d248d1248d348d1348d2348d12348d58d158d258d1258d358d1358d2358d12358d458",
    "d1458d2458d12458d3458d13458d23458d123458d68d168d268d1268d368d1368d2368d12368d468d1468d2468",
    "d12468d3468d13468d23468d123468d568d1568d2568d12568d3568d13568d23568d123568d4568d14568d24568",
    "d124568d34568d134568d234568d1234568d78d178d278d1278d378d1378d2378d12378d478d1478d2478d12478",
    "d3478d13478d23478d123478d578d1578d2578d12578d3578d13578d23578d123578d4578d14578d24578",
    "d124578d34578d134578d234578d1234578d678d1678d2678d12678d3678d13678d23678d123678d4678d14678",
    "d24678d124678d34678d134678d234678d1234678d5678d15678d25678d125678d35678d135678d235678",
    "d1235678d45678d145678d245678d1245678d345678d1345678d2345678d12345678",
    "avTWO-HEADED ARROW nVERTICAL STROKEfwVERTICAL STROKEaLEFTWARDS wARROW nVERTICAL STROKE",
    "avwARROW nVERTICAL STROKEaxuwARROW nVERTICAL STROKEavTWO-HEADED ARROW FROM BAR",
    "aLEFTWARDS wARROW FROM BARavwARROW FROM BARaDOWNWARDS ARROW nHORIZONTAL STROKE",
    "aUPWARDS ARROW nHORIZONTAL STROKEbTRIPLE zaDOWNWARDS TRIPLE zaLEFTWARDS wDASH zavwDASH z",
    "aLEFTWARDS TRIPLE DASH zavTRIPLE DASH zbTWO-HEADED TRIPLE DASH zbARROW nDOTTED STEM",
    "aUPWARDS ARROW TO BARaDOWNWARDS ARROW TO BARavARROW nTAIL nVERTICAL STROKEfwVERTICAL STROKE",
    "bTWO-HEADED ARROW nTAILfTAIL nVERTICAL STROKEhwVERTICAL STROKEaLEFTWARDS ARROW-TAIL",
    "avARROW-TAILaLEFTWARDS wARROW-TAILavwARROW-TAILaLEFTWARDS ARROW TO BLACK DIAMOND",
    "avARROW TO BLACK DIAMONDaLEFTWARDS ARROW FROM BAR TO BLACK DIAMOND",
    "avARROW FROM BAR TO BLACK DIAMONDaNORTH WEST tSOUTH EAST zbEAST tSOUTH WEST z",
    "bWEST ARROW nHOOKbEAST ARROW nHOOKaSOUTH EAST ARROW nHOOKbWEST ARROW nHOOK",
    "aNORTH WEST ARROW tNORTH EAST zbEAST ARROW tSOUTH EAST zaSOUTH EAST ARROW tSOUTH WEST z",
    "bWEST ARROW tNORTH WEST zaRISING DIAGONAL CROSSING FALLING DIAGONAL",
    "aFALLING DIAGONAL CROSSING RISING DIAGONALaSOUTH EAST ARROW CROSSING NORTH EAST z",
    "aNORTH EAST ARROW CROSSING SOUTH EAST zaFALLING DIAGONAL CROSSING NORTH EAST z",
    "aRISING DIAGONAL CROSSING SOUTH EAST zaNORTH EAST ARROW CROSSING NORTH WEST z",
    "bWEST ARROW CROSSING NORTH EAST zaWAVE ARROW POINTING DIRECTLY RIGHT",
    "aARROW POINTING vTHEN CURVING UPWARDSfDOWNWARDScDOWNWARDS THEN CURVING LEFTWARDSfRIGHTWARDS",
    "aRIGHT-SIDE ARC CLOCKWISE zaLEFT-SIDE ARC ANTICLOCKWISE zaTOP ARC ANTICLOCKWISE z",
    "aBOTTOM ARC ANTICLOCKWISE zaTOP ARC CLOCKWISE ARROW nMINUScANTICLOCKWISE ARROW nPLUS",
    "aLOWER uSEMICIRCULAR CLOCKWISE zbxSEMICIRCULAR ANTICLOCKWISE z",
    "aANTICLOCKWISE CLOSED CIRCLE zaCLOCKWISE CLOSED CIRCLE zavARROW ABOVE SHORT LEFTWARDS z",
    "aLEFTWARDS ARROW ABOVE SHORT vzaSHORT vARROW ABOVE LEFTWARDS zavARROW nPLUS BELOW",
    "aLEFTWARDS ARROW nPLUS BELOWavARROW THROUGH XaxuARROW THROUGH pCIRCLE",
    "aUPWARDS TWO-HEADED ARROW FROM pCIRCLEaxBARB UP uBARB DOWN HARPOONcDOWN uBARB UP HARPOON",
    "aUP BARB uDOWN BARB xHARPOONcxDOWN BARB uHARPOONaxBARB UP uBARB UP HARPOON",
    "aUP BARB uDOWN BARB uHARPOONaxBARB DOWN uBARB DOWN HARPOONaUP BARB xDOWN BARB xHARPOON",
    "aLEFTWARDS HARPOON nBARB UP TO BARavHARPOON nBARB UP TO BARaUPWARDS HARPOON nBARB uTO BAR",
    "aDOWNWARDS HARPOON nBARB uTO BARaLEFTWARDS HARPOON nBARB DOWN TO BAR",
    "avHARPOON nBARB DOWN TO BARaUPWARDS HARPOON nBARB xTO BARaDOWNWARDS HARPOON nBARB xTO BAR",
    "aLEFTWARDS HARPOON nBARB UP FROM BARavHARPOON nBARB UP FROM BAR",
    "aUPWARDS HARPOON nBARB uFROM BARaDOWNWARDS HARPOON nBARB uFROM BAR",
    "aLEFTWARDS HARPOON nBARB DOWN FROM BARavHARPOON nBARB DOWN FROM BAR",
    "aUPWARDS HARPOON nBARB xFROM BARaDOWNWARDS HARPOON nBARB xFROM BAR",
    "aLEFTWARDS HARPOON nBARB UP ABOVE LEFTWARDS HARPOON nBARB DOWN",
    "aUPWARDS HARPOON nBARB xBESIDE UPWARDS HARPOON nBARB RIGHT",
    "avHARPOON nBARB UP ABOVE vHARPOON nBARB DOWN",
    "aDOWNWARDS HARPOON nBARB xBESIDE DOWNWARDS HARPOON nBARB RIGHT",
    "aLEFTWARDS HARPOON nBARB UP ABOVE vHARPOON nBARB UPeDOWN ABOVE vHARPOON nBARB DOWN",
    "avHARPOON nBARB UP ABOVE LEFTWARDS HARPOON nBARB UPeDOWN ABOVE LEFTWARDS HARPOON nBARB DOWN",
    "aLEFTWARDS HARPOON nBARB UP ABOVE LONG DASHeDOWN BELOW LONG DASH",
    "avHARPOON nBARB UP ABOVE LONG DASHeDOWN BELOW LONG DASH",
    "aUPWARDS HARPOON nBARB xBESIDE DOWNWARDS HARPOON nBARB RIGHT",
    "aDOWNWARDS HARPOON nBARB xBESIDE UPWARDS HARPOON nBARB RIGHTauwARROW nROUNDED HEAD",
    "aEQUALS yABOVE vzaTILDE OPERATOR ABOVE vzaLEFTWARDS ARROW ABOVE TILDE OPERATOR",
    "avARROW ABOVE TILDE OPERATORdALMOST EQUAL TOaLESS-THAN ABOVE LEFTWARDS z",
    "aLEFTWARDS ARROW THROUGH LESS-THANaGREATER-THAN ABOVE vzaSUBSET ABOVE vz",
    "aLEFTWARDS ARROW THROUGH SUBSETaSUPERSET ABOVE LEFTWARDS zaxFISH TAILauFISH TAIL",
    "aUP FISH TAILaDOWN FISH TAILaTRIPLE VERTICAL BAR DELIMITERaZ NOTATION SPOTcTYPE COLON",
    "axWHITE CURLY BRACKETauWHITE CURLY BRACKETaxWHITE PARENTHESISauWHITE PARENTHESIS",
    "aZ NOTATION xIMAGE BRACKETcuIMAGE BRACKETcxBINDING BRACKETcuBINDING BRACKET",
    "axSQUARE BRACKET nUNDERBARauSQUARE BRACKET nUNDERBARaxSQUARE BRACKET nTICK IN TOP CORNER",
    "auSQUARE BRACKET nTICK IN BOTTOM CORNERaxSQUARE BRACKET nTICK IN BOTTOM CORNER",
    "auSQUARE BRACKET nTICK IN TOP CORNERaxANGLE BRACKET nDOTauANGLE BRACKET nDOT",
    "axARC LESS-THAN BRACKETauARC GREATER-THAN BRACKETawxARC GREATER-THAN BRACKET",
    "buARC LESS-THAN BRACKETaxBLACK TORTOISE SHELL BRACKETauBLACK TORTOISE SHELL BRACKET",
    "aDOTTED FENCEaVERTICAL ZIGZAG LINEaMEASURED ANGLE OPENING LEFTauANGLE VARIANT nSQUARE",
    "aMEASURED uANGLE nDOTaANGLE nS INSIDEaACUTE ANGLEaSPHERICAL ANGLE OPENING LEFTdUP",
    "aTURNED ANGLEaREVERSED ANGLEaANGLE nUNDERBARaREVERSED ANGLE nUNDERBAR",
    "aOBLIQUE ANGLE OPENING UPdDOWNaMEASURED ANGLE nOPEN ARM ENDING IN ARROW POINTING UP tRIGHT",
    "lLEFTjDOWN tRIGHTlLEFTjutUPjxtUPjutDOWNjxtDOWNaREVERSED EMPTY SETaEMPTY SET nOVERBAR",
    "dpCIRCLE ABOVEduARROW ABOVEdxARROW ABOVEaCIRCLE nHORIZONTAL BARaCIRCLED VERTICAL BAR",
    "bPARALLELbREVERSE SOLIDUSbPERPENDICULAR",
    "aCIRCLE DIVIDED BY HORIZONTAL BAR tTOP HALF DIVIDED BY VERTICAL BARbnSUPERIMPOSED X",
    "aCIRCLED ANTICLOCKWISE-ROTATED DIVISION SIGNaUP ARROW THROUGH CIRCLEaCIRCLED WHITE BULLET",
    "bBULLETbLESS-THANbGREATER-THANaCIRCLE npCIRCLE TO THE RIGHT",
    "cTWO HORIZONTAL STROKES TO THE RIGHTaSQUARED RISING DIAGONAL SLASHbFALLING DIAGONAL SLASH",
    "bASTERISKbpCIRCLEbSQUAREaTWO JOINED SQUARESaTRIANGLE nDOT ABOVEcUNDERBARaS IN TRIANGLE",
    "aTRIANGLE nSERIFS AT BOTTOMauTRIANGLE ABOVE xTRIANGLEaxTRIANGLE BESIDE VERTICAL BAR",
    "aVERTICAL BAR BESIDE uTRIANGLEaBOWTIE nxHALF BLACKcuHALF BLACKaBLACK BOWTIE",
    "aTIMES nxHALF BLACKcuHALF BLACKaWHITE HOURGLASSaBLACK HOURGLASSaxWIGGLY FENCEauWIGGLY FENCE",
    "axwWIGGLY FENCEauwWIGGLY FENCEaINCOMPLETE INFINITYaTIE OVER INFINITY",
    "aINFINITY NEGATED nVERTICAL BARaDOUBLE-ENDED MULTIMAPaSQUARE nCONTOURED OUTLINE",
    "aINCREASES ASaSHUFFLE PRODUCTaEQUALS ytSLANTED PARALLELePARALLEL nTILDE ABOVE",
    "aIDENTICAL TO tSLANTED PARALLELaGLEICH STARKaTHERMODYNAMIC",
    "aDOWN-POINTING TRIANGLE nxHALF BLACKeuHALF BLACKaBLACK DIAMOND nDOWN zbLOZENGE",
    "aWHITE CIRCLE nDOWN zaBLACK CIRCLE nDOWN zaERROR-BARRED WHITE SQUAREcBLACK SQUARE",
    "cWHITE DIAMONDcBLACK DIAMONDcWHITE CIRCLEcBLACK CIRCLEaRULE-DELAYED",
    "aREVERSE SOLIDUS OPERATORaSOLIDUS nOVERBARaREVERSE SOLIDUS nHORIZONTAL STROKEaBIG SOLIDUS",
    "bREVERSE SOLIDUSawPLUSaTRIPLE PLUSaLEFT-POINTING CURVED ANGLE BRACKET",
    "aRIGHT-POINTING CURVED ANGLE BRACKETaTINYaMINYaN-ARY CIRCLED DOT OPERATORdPLUS OPERATOR",
    "dTIMES OPERATORcUNION OPERATOR nDOTfPLUScSQUARE INTERSECTION OPERATORdUNION OPERATOR",
    "aTWO LOGICAL tOPERATORcOR OPERATORaN-ARY TIMES OPERATORaMODULO TWO SUMaSUMMATION nINTEGRAL",
    "aQUADRUPLE INTEGRAL OPERATORaFINITE PART INTEGRALaINTEGRAL nwSTROKEbAVERAGE nSLASH",
    "aCIRCULATION FUNCTIONaANTICLOCKWISE INTEGRATION",
    "aLINE INTEGRATION nRECTANGULAR PATH AROUND POLEdSEMICIRCULAR PATH AROUND POLE",
    "cNOT INCLUDING THE POLEaINTEGRAL AROUND A POINT OPERATORaQUATERNION INTEGRAL OPERATOR",
    "aINTEGRAL nLEFTWARDS ARROW nHOOKcTIMES SIGNcINTERSECTIONcUNIONcOVERBARcUNDERBARaJOIN",
    "aLARGE xTRIANGLE OPERATORaZ NOTATION SCHEMA COMPOSITIONdPIPINGdPROJECTION",
    "aPLUS ynpCIRCLE ABOVEdCIRCUMFLEX ACCENT ABOVEdTILDE ABOVEdDOT BELOWdTILDE BELOW",
    "dSUBSCRIPT TWOdBLACK TRIANGLEaMINUS ynCOMMA ABOVEdDOT BELOWdFALLING DOTSdRISING DOTS",
    "aPLUS yIN xHALF CIRCLEduHALF CIRCLEaVECTOR OR CROSS PRODUCTaMULTIPLICATION ynDOT ABOVE",
    "dUNDERBARaSEMIDIRECT PRODUCT nBOTTOM CLOSEDaSMASH PRODUCTaMULTIPLICATION yIN xHALF CIRCLE",
    "duHALF CIRCLEaCIRCLED MULTIPLICATION ynCIRCUMFLEX ACCENTaMULTIPLICATION yIN wCIRCLE",
    "aCIRCLED DIVISION SIGNaPLUS yIN TRIANGLEaMINUS yIN TRIANGLEaMULTIPLICATION yIN TRIANGLE",
    "aINTERIOR PRODUCTaRIGHTHAND INTERIOR PRODUCTaZ NOTATION RELATIONAL COMPOSITION",
    "aAMALGAMATION OR COPRODUCTaINTERSECTION nDOTaUNION nMINUS SIGNcOVERBAR",
    "aINTERSECTION nOVERBARcLOGICAL ANDaUNION nLOGICAL ORbABOVE INTERSECTION",
    "aINTERSECTION ABOVE UNIONaUNION ABOVE BAR ABOVE INTERSECTION",
    "aINTERSECTION ABOVE BAR ABOVE UNIONaUNION BESIDE tJOINED nUNION",
    "aINTERSECTION BESIDE tJOINED nINTERSECTIONaCLOSED UNION nSERIFSbINTERSECTION nSERIFS",
    "awSQUARE INTERSECTIONcUNIONaCLOSED UNION nSERIFS tSMASH PRODUCTaLOGICAL tnDOT ABOVE",
    "bOR nDOT ABOVEawLOGICAL ANDcORaTWO INTERSECTING LOGICAL ANDdORaSLOPING LARGE ORcAND",
    "aLOGICAL OR OVERLAPPING LOGICAL ANDbtnMIDDLE STEMbOR nMIDDLE STEMbtnHORIZONTAL DASH",
    "bOR nHORIZONTAL DASHbtnwOVERBARdUNDERBARdwUNDERBARapVEE nUNDERBARaLOGICAL OR nwOVERBAR",
    "eUNDERBARaZ NOTATION DOMAIN ANTIRESTRICTIONcRANGE ANTIRESTRICTIONaEQUALS ynDOT BELOW",
    "aIDENTICAL nDOT ABOVEaTRIPLE HORIZONTAL BAR nwVERTICAL STROKEeTRIPLE VERTICAL STROKE",
    "aTILDE OPERATOR nDOT ABOVEdRISING DOTSaSIMILAR MINUS SIMILARaCONGRUENT nDOT ABOVE",
    "aEQUALS nASTERISKaALMOST EQUAL TO nCIRCUMFLEX ACCENTaAPPROXIMATELY EQUAL OR EQUAL TO",
    "aEQUALS yABOVE PLUS SIGNaPLUS yABOVE EQUALS SIGNaEQUALS yABOVE TILDE OPERATORawCOLON EQUAL",
    "aTWO CONSECUTIVE EQUALS SIGNSaTHREE CONSECUTIVE EQUALS SIGNS",
    "aEQUALS ynTWO DOTS ABOVE tTWO DOTS BELOWaEQUIVALENT nFOUR DOTS ABOVE",
    "aLESS-THAN nCIRCLE INSIDEaGREATER-THAN nCIRCLE INSIDEaLESS-THAN nQUESTION MARK ABOVE",
    "aGREATER-THAN nQUESTION MARK ABOVEaLESS-THAN OR SLANTED EQUAL TO",
    "aGREATER-THAN OR SLANTED EQUAL TOaLESS-THAN OR SLANTED EQUAL TO nDOT INSIDE",
    "aGREATER-THAN OR SLANTED EQUAL TO nDOT INSIDEaLESS-THAN OR SLANTED EQUAL TO nDOT ABOVE",
    "aGREATER-THAN OR SLANTED EQUAL TO nDOT ABOVEaLESS-THAN OR SLANTED EQUAL TO nDOT ABOVE RIGHT",
    "aGREATER-THAN OR SLANTED EQUAL TO nDOT ABOVE LEFTaLESS-THAN OR APPROXIMATE",
    "aGREATER-THAN OR APPROXIMATEaLESS-THAN tSINGLE-LINE NOT EQUAL TO",
    "aGREATER-THAN tSINGLE-LINE NOT EQUAL TOaLESS-THAN tNOT APPROXIMATE",
    "aGREATER-THAN tNOT APPROXIMATEaLESS-THAN ABOVE DOUBLE-LINE EQUAL ABOVE GREATER-THAN",
    "aGREATER-THAN ABOVE DOUBLE-LINE EQUAL ABOVE LESS-THANaLESS-THAN ABOVE SIMILAR OR EQUAL",
    "aGREATER-THAN ABOVE SIMILAR OR EQUALaLESS-THAN ABOVE SIMILAR ABOVE GREATER-THAN",
    "aGREATER-THAN ABOVE SIMILAR ABOVE LESS-THAN",
    "aLESS-THAN ABOVE GREATER-THAN ABOVE DOUBLE-LINE EQUAL",
    "aGREATER-THAN ABOVE LESS-THAN ABOVE DOUBLE-LINE EQUAL",
    "aLESS-THAN ABOVE SLANTED EQUAL ABOVE GREATER-THAN ABOVE SLANTED EQUAL",
    "aGREATER-THAN ABOVE SLANTED EQUAL ABOVE LESS-THAN ABOVE SLANTED EQUAL",
    "aSLANTED EQUAL TO OR LESS-THANeGREATER-THANeLESS-THAN nDOT INSIDEeGREATER-THAN nDOT INSIDE",
    "aDOUBLE-LINE EQUAL TO OR LESS-THANfGREATER-THANcSLANTED EQUAL TO OR LESS-THANgGREATER-THAN",
    "aSIMILAR OR LESS-THANcGREATER-THANbABOVE LESS-THAN ABOVE EQUALS SIGN",
    "cGREATER-THAN ABOVE EQUALS SIGNawNESTED LESS-THANcGREATER-THANcLESS-THAN nUNDERBAR",
    "aGREATER-THAN OVERLAPPING LESS-THANcBESIDE LESS-THANaLESS-THAN CLOSED BY CURVE",
    "aGREATER-THAN CLOSED BY CURVEaLESS-THAN CLOSED BY CURVE ABOVE SLANTED EQUAL",
    "aGREATER-THAN CLOSED BY CURVE ABOVE SLANTED EQUALaSMALLER THANaLARGER THAN",
    "aSMALLER THAN OR EQUAL TOaLARGER THAN OR EQUAL TOaEQUALS ynBUMPY ABOVE",
    "aPRECEDES ABOVE SINGLE-LINE EQUALS SIGNaSUCCEEDS ABOVE SINGLE-LINE EQUALS SIGN",
    "aPRECEDES ABOVE SINGLE-LINE NOT EQUAL TOaSUCCEEDS ABOVE SINGLE-LINE NOT EQUAL TO",
    "aPRECEDES ABOVE EQUALS SIGNaSUCCEEDS ABOVE EQUALS SIGNaPRECEDES ABOVE NOT EQUAL TO",
    "aSUCCEEDS ABOVE NOT EQUAL TOaPRECEDES ABOVE ALMOST EQUAL TOaSUCCEEDS ABOVE ALMOST EQUAL TO",
    "aPRECEDES ABOVE NOT ALMOST EQUAL TOaSUCCEEDS ABOVE NOT ALMOST EQUAL TOawPRECEDESbSUCCEEDS",
    "aSUBSET nDOTaSUPERSET nDOTaSUBSET nPLUS yBELOWaSUPERSET nPLUS yBELOW",
    "aSUBSET nMULTIPLICATION yBELOWaSUPERSET nMULTIPLICATION yBELOW",
    "aSUBSET OF OR EQUAL TO nDOT ABOVEaSUPERSET OF OR EQUAL TO nDOT ABOVE",
    "aSUBSET OF ABOVE EQUALS SIGNaSUPERSET OF ABOVE EQUALS SIGNaSUBSET OF ABOVE TILDE OPERATOR",
    "aSUPERSET OF ABOVE TILDE OPERATORaSUBSET OF ABOVE ALMOST EQUAL TO",
    "aSUPERSET OF ABOVE ALMOST EQUAL TOaSUBSET OF ABOVE NOT EQUAL TO",
    "aSUPERSET OF ABOVE NOT EQUAL TOaSQUARE xOPEN BOX OPERATORbuOPEN BOX OPERATORaCLOSED SUBSET",
    "bSUPERSETbSUBSET OR EQUAL TObSUPERSET OR EQUAL TOaSUBSET ABOVE SUPERSET",
    "aSUPERSET ABOVE SUBSETaSUBSET ABOVE SUBSETaSUPERSET ABOVE SUPERSETbBESIDE SUBSET",
    "ctJOINED BY DASH nSUBSETaELEMENT OF OPENING DOWNWARDSaPITCHFORK nTEE TOP",
    "aTRANSVERSAL INTERSECTIONaFORKINGaNONFORKINGaSHORT xTACKbDOWN TACKbUP TACKaPERPENDICULAR nS",
    "aVERTICAL BAR TRIPLE uTURNSTILEawVERTICAL BAR xTURNSTILEaVERTICAL BAR wxTURNSTILE",
    "awVERTICAL BAR wxTURNSTILEaLONG DASH FROM xMEMBER OF wVERTICALaSHORT DOWN TACK nOVERBAR",
    "bUP TACK nUNDERBARdABOVE SHORT DOWN TACKawDOWN TACKbUP TACKbSTROKE NOT SIGN",
    "aREVERSED wSTROKE NOT SIGNaDOES NOT DIVIDE nREVERSED NEGATION SLASH",
    "aVERTICAL LINE nCIRCLE ABOVEeBELOWaDOWN TACK nCIRCLE BELOWaPARALLEL nHORIZONTAL STROKE",
    "cTILDE OPERATORaTRIPLE VERTICAL BAR BINARY RELATIONdnHORIZONTAL STROKEbCOLON OPERATOR",
    "bNESTED LESS-THANcGREATER-THANaDOUBLE-LINE SLANTED LESS-THAN OR EQUAL TO",
    "dGREATER-THAN OR EQUAL TOaTRIPLE SOLIDUS BINARY RELATIONaLARGE TRIPLE VERTICAL BAR OPERATOR",
    "awSOLIDUS OPERATORaWHITE VERTICAL BARaN-ARY WHITE VERTICAL BARaNORTH EAST WHITE z",
    "bWEST WHITE zaSOUTH EAST WHITE zbWEST WHITE zaxuWHITE zaLEFTWARDS BLACK zaUPWARDS BLACK z",
    "aDOWNWARDS BLACK zaNORTH EAST BLACK zbWEST BLACK zaSOUTH EAST BLACK zbWEST BLACK z",
    "axuBLACK zaUP DOWN BLACK zavARROW nTIP DOWNWARDSeUPWARDSaLEFTWARDS ARROW nTIP DOWNWARDS",
    "eUPWARDSaSQUARE nTOP HALF BLACKcBOTTOM HALF BLACKcUPPER uDIAGONAL HALF BLACK",
    "cLOWER xDIAGONAL HALF BLACKaDIAMOND nxHALF BLACKcuHALF BLACKcTOP HALF BLACK",
    "cBOTTOM HALF BLACKaDOTTED SQUAREaBLACK LARGE SQUAREaWHITE LARGE SQUAREaBLACK VERY pSQUARE",
    "aWHITE VERY pSQUAREaBLACK PENTAGONaWHITE PENTAGONbHEXAGONaBLACK HEXAGON",
    "aHORIZONTAL BLACK HEXAGONaBLACK LARGE CIRCLEbMEDIUM DIAMONDaWHITE MEDIUM DIAMOND",
    "aBLACK MEDIUM LOZENGEaWHITE MEDIUM LOZENGEaBLACK pDIAMONDcLOZENGEaWHITE pLOZENGE",
    "aBLACK HORIZONTAL ELLIPSEaWHITE HORIZONTAL ELLIPSEaBLACK VERTICAL ELLIPSE",
    "aWHITE VERTICAL ELLIPSEaxARROW npCIRCLEaTHREE LEFTWARDS ARROWSaxARROW nCIRCLED PLUS",
    "aLONG LEFTWARDS SQUIGGLE zaLEFTWARDS TWO-HEADED ARROW nVERTICAL STROKEfwVERTICAL STROKE",
    "eFROM BARdTRIPLE DASH zbARROW nDOTTED STEMdTAIL nVERTICAL STROKEfwVERTICAL STROKE",
    "bTWO-HEADED ARROW nTAILfTAIL nVERTICAL STROKEhwVERTICAL STROKEbARROW THROUGH X",
    "aWAVE ARROW POINTING DIRECTLY LEFTaEQUALS yABOVE LEFTWARDS z",
    "aREVERSE TILDE OPERATOR ABOVE LEFTWARDS zaLEFTWARDS ARROW ABOVE REVERSE ALMOST EQUAL TO",
    "avARROW THROUGH GREATER-THANdSUPERSETaLEFTWARDS QUADRUPLE zavQUADRUPLE z",
    "aREVERSE TILDE OPERATOR ABOVE vzavARROW ABOVE REVERSE ALMOST EQUAL TO",
    "aTILDE OPERATOR ABOVE LEFTWARDS zaLEFTWARDS ARROW ABOVE ALMOST EQUAL TO",
    "dREVERSE TILDE OPERATORavARROW ABOVE REVERSE TILDE OPERATOR",
    "aDOWNWARDS TRIANGLE-HEADED ZIGZAG zaSHORT SLANTED NORTH zbBACKSLANTED SOUTH z",
    "aWHITE MEDIUM STARaBLACK pSTARaWHITE pSTARaBLACK RIGHT-POINTING PENTAGON",
    "aWHITE RIGHT-POINTING PENTAGONaHEAVY LARGE CIRCLEbOVAL nOVAL INSIDEbCIRCLE nCIRCLE INSIDE",
    "bCIRCLEbCIRCLED SALTIREaSLANTED NORTH ARROW nHOOKED HEAD",
    "aBACKSLANTED SOUTH ARROW nHOOKED TAILaSLANTED NORTH ARROW nHORIZONTAL TAIL",
    "aBACKSLANTED SOUTH ARROW nHORIZONTAL TAILaBENT ARROW POINTING DOWNWARDS THEN NORTH EAST",
    "aSHORT BENT ARROW POINTING DOWNWARDS THEN NORTH EASTaLEFTWARDS TRIANGLE-HEADED z",
    "aUPWARDS TRIANGLE-HEADED zavTRIANGLE-HEADED zaDOWNWARDS TRIANGLE-HEADED z",
    "axuTRIANGLE-HEADED zaUP DOWN TRIANGLE-HEADED zaNORTH WEST TRIANGLE-HEADED z",
    "bEAST TRIANGLE-HEADED zaSOUTH EAST TRIANGLE-HEADED zbWEST TRIANGLE-HEADED z",
    "aLEFTWARDS TRIANGLE-HEADED DASHED zaUPWARDS TRIANGLE-HEADED DASHED z",
    "avTRIANGLE-HEADED DASHED zaDOWNWARDS TRIANGLE-HEADED DASHED z",
    "aCLOCKWISE TRIANGLE-HEADED OPEN CIRCLE zaANTICLOCKWISE TRIANGLE-HEADED OPEN CIRCLE z",
    "aLEFTWARDS TRIANGLE-HEADED ARROW TO BARaUPWARDS TRIANGLE-HEADED ARROW TO BAR",
    "avTRIANGLE-HEADED ARROW TO BARaDOWNWARDS TRIANGLE-HEADED ARROW TO BAR"]⟩,
  ⟨0x2b76,
   ["aNORTH WEST TRIANGLE-HEADED ARROW TO BARbEAST TRIANGLE-HEADED ARROW TO BAR",
    "aSOUTH EAST TRIANGLE-HEADED ARROW TO BARbWEST TRIANGLE-HEADED ARROW TO BAR",
    "aLEFTWARDS TRIANGLE-HEADED ARROW nwHORIZONTAL STROKE",
    "aUPWARDS TRIANGLE-HEADED ARROW nwHORIZONTAL STROKE",
    "avTRIANGLE-HEADED ARROW nwHORIZONTAL STROKE",
    "aDOWNWARDS TRIANGLE-HEADED ARROW nwHORIZONTAL STROKEaHORIZONTAL TAB KEYaVERTICAL TAB KEY",
    "aLEFTWARDS TRIANGLE-HEADED ARROW OVER vTRIANGLE-HEADED z",
    "aUPWARDS TRIANGLE-HEADED ARROW LEFTWARDS OF DOWNWARDS TRIANGLE-HEADED z",
    "avTRIANGLE-HEADED ARROW OVER LEFTWARDS TRIANGLE-HEADED z",
    "aDOWNWARDS TRIANGLE-HEADED ARROW LEFTWARDS OF UPWARDS TRIANGLE-HEADED z",
    "aLEFTWARDS TRIANGLE-HEADED PAIRED ARROWSaUPWARDS TRIANGLE-HEADED PAIRED ARROWS",
    "avTRIANGLE-HEADED PAIRED ARROWSaDOWNWARDS TRIANGLE-HEADED PAIRED ARROWS",
    "aLEFTWARDS BLACK CIRCLED WHITE zaUPWARDS BLACK CIRCLED WHITE zavBLACK CIRCLED WHITE z",
    "aDOWNWARDS BLACK CIRCLED WHITE zaANTICLOCKWISE TRIANGLE-HEADED uU-SHAPED z",
    "dBOTTOM U-SHAPED zdxU-SHAPED zdTOP U-SHAPED zaRETURN LEFTbRIGHTaNEWLINE LEFTbRIGHT",
    "aFOUR CORNER ARROWS CIRCLING ANTICLOCKWISEavBLACK z"]⟩,
  ⟨0x2b97,
   ["aSYMBOL FOR TYPE A ELECTRONICSaTHREE-D TOP-LIGHTED LEFTWARDS EQUILATERAL ARROWHEAD",
    "cRIGHT-LIGHTED UPWARDS EQUILATERAL ARROWHEADcTOP-LIGHTED vEQUILATERAL ARROWHEAD",
    "cLEFT-LIGHTED DOWNWARDS EQUILATERAL ARROWHEADaBLACK LEFTWARDS EQUILATERAL ARROWHEAD",
    "bUPWARDS EQUILATERAL ARROWHEADbvEQUILATERAL ARROWHEADbDOWNWARDS EQUILATERAL ARROWHEAD",
    "aDOWNWARDS TRIANGLE-HEADED ARROW nLONG TIP LEFTWARDShRIGHTWARDS",
    "aUPWARDS TRIANGLE-HEADED ARROW nLONG TIP LEFTWARDShRIGHTWARDS",
    "aLEFTWARDS TRIANGLE-HEADED ARROW nLONG TIP UPWARDSavTRIANGLE-HEADED ARROW nLONG TIP UPWARDS",
    "aLEFTWARDS TRIANGLE-HEADED ARROW nLONG TIP DOWNWARDS",
    "avTRIANGLE-HEADED ARROW nLONG TIP DOWNWARDSaBLACK CURVED DOWNWARDS tLEFTWARDS zevz",
    "cUPWARDS tLEFTWARDS zevzcLEFTWARDS tUPWARDS zcvtUPWARDS zcLEFTWARDS tDOWNWARDS z",
    "cvtDOWNWARDS zaRIBBON ARROW DOWN LEFTdRIGHTcUP LEFTdRIGHTcxUPcuUPcxDOWNcuDOWN",
    "aUPWARDS WHITE ARROW FROM BAR nHORIZONTAL BARaUP ARROWHEAD IN A RECTANGLE BOX",
    "aOVERLAPPING WHITE SQUARESctBLACK SQUARESbBLACK SQUARESaBALLOT BOX nLIGHT XaCIRCLED X",
    "bBOLD XaBLACK SQUARE CENTREDbDIAMOND CENTREDaTURNED BLACK PENTAGONaHORIZONTAL BLACK OCTAGON",
    "aBLACK OCTAGONbMEDIUM UP-POINTING TRIANGLE CENTREDcDOWN-POINTING TRIANGLE CENTRED",
    "cLEFT-POINTING TRIANGLE CENTREDcRIGHT-POINTING TRIANGLE CENTREDaNEPTUNE FORM TWO",
    "aTOP HALF BLACK CIRCLEaBOTTOM HALF BLACK CIRCLEaLIGHT FOUR POINTED BLACK CUSP",
    "aROTATED LIGHT FOUR POINTED BLACK CUSPaWHITE FOUR POINTED CUSP",
    "aROTATED WHITE FOUR POINTED CUSPaSQUARE POSITION INDICATORaUNCERTAINTY SIGNaGROUP MARK",
    "aPLUTO FORM TWOcTHREEcFOURcFIVEaTRANSPLUTOaPROSERPINAaASTRAEAaHYGIEAaPHOLUSaNESSUS",
    "aWHITE MOON SELENAaBLACK DIAMOND ON CROSSaTRUE LIGHT MOON ARTAaCUPIDOaHADESaZEUSaKRONOS",
    "aAPOLLONaADMETOSaVULCANUSaPOSEIDONaxHALF BLACK STARauHALF BLACK STARaSTAR nxHALF BLACK",
    "cuHALF BLACKaLEFTWARDS TWO-HEADED ARROW nTRIANGLE ARROWHEADS",
    "aUPWARDS TWO-HEADED ARROW nTRIANGLE ARROWHEADSavTWO-HEADED ARROW nTRIANGLE ARROWHEADS",
    "aDOWNWARDS TWO-HEADED ARROW nTRIANGLE ARROWHEADSaERIS FORM ONEcTWOaSEDNA",
    "aRUSSIAN ASTROLOGICAL SYMBOL VIGINTILEdNOVILEdQUINTILEdBINOVILEdSENTAGONdTREDECILE",
    "aEQUALS ynINFINITY BELOWaUNITED SYMBOLaSEPARATED SYMBOLaDOUBLED SYMBOLaPASSED SYMBOL",
    "aREVERSED uANGLEaHELLSCHREIBER PAUSE SYMBOLaGLAGOLITIC omAZUdBUKYdVEDEdGLAGOLIdDOBROdYESTU",
    "dZHIVETEdDZELOdZEMLJAdIZHEdINITIAL IZHEdIdDJERVIdKAKOdLJUDIJEdMYSLITEdNASHIdONUdPOKOJI",
    "dRITSIdSLOVOdTVRIDOdUKUdFRITUdHERUdOTUdPEdSHTAdTSIdCHRIVIdSHAdYERUdYERIdYATIdSPIDERY HAdYU",
    "dpYUSeYUS nTAILdYOdIOTATED pYUSdBIG YUSdIOTATED BIG YUSdFITAdIZHITSAdSHTAPICdTROKUTASTI A",
    "dLATINATE MYSLITEdCAUDATE CHRIVIbpmAZUdBUKYdVEDEdGLAGOLIdDOBROdYESTUdZHIVETEdDZELOdZEMLJA",
    "dIZHEdINITIAL IZHEdIdDJERVIdKAKOdLJUDIJEdMYSLITEdNASHIdONUdPOKOJIdRITSIdSLOVOdTVRIDOdUKU",
    "dFRITUdHERUdOTUdPEdSHTAdTSIdCHRIVIdSHAdYERUdYERIdYATIdSPIDERY HAdYUdpYUSeYUS nTAILdYO",
    "dIOTATED pYUSdBIG YUSdIOTATED BIG YUSdFITAdIZHITSAdSHTAPICdTROKUTASTI AdLATINATE MYSLITE",
    "dCAUDATE CHRIVIaLATIN omL nwBARbpmL nwBARbomL nMIDDLE TILDEdP nSTROKEdR nTAILbpmA nSTROKE",
    "dT nDIAGONAL STROKEbomH nDESCENDERbpmH nDESCENDERbomK nDESCENDERbpmK nDESCENDER",
    "bomZ nDESCENDERbpmZ nDESCENDERbomALPHAdM nHOOKdTURNED AeALPHAbpmV nuHOOKbomW nHOOK",
    "bpmW nHOOKdV nCURLbomHALF HbpmHALF HdTAILLESS PHIdE nNOTCHdTURNED R nTAIL",
    "dO nLOW RING INSIDEbmpoTURNED EbSUBSCRIPT pmJaMODIFIER moVaLATIN omS nSWASH TAIL",
    "dZ nSWASH TAILaCOPTIC omALFAbpmALFAbomVIDAbpmVIDAbomGAMMAbpmGAMMAbomDALDAbpmDALDAbomEIE",
    "bpmEIEbomSOUbpmSOUbomZATAbpmZATAbomHATEbpmHATEbomTHETHEbpmTHETHEbomIAUDAbpmIAUDAbomKAPA",
    "bpmKAPAbomLAULAbpmLAULAbomMIbpmMIbomNIbpmNIbomKSIbpmKSIbomObpmObomPIbpmPIbomRObpmRObomSIMA",
    "bpmSIMAbomTAUbpmTAUbomUAbpmUAbomFIbpmFIbomKHIbpmKHIbomPSIbpmPSIbomOOUbpmOOU",
    "bomDIALECT-P ALEFbpmDIALECT-P ALEFbomOLD COPTIC AINbpmOLD COPTIC AINbomCRYPTOGRAMMIC EIE",
    "bpmCRYPTOGRAMMIC EIEbomDIALECT-P KAPAbpmDIALECT-P KAPAbomDIALECT-P NIbpmDIALECT-P NI",
    "bomCRYPTOGRAMMIC NIbpmCRYPTOGRAMMIC NIbomOLD COPTIC OOUbpmOLD COPTIC OOUbomSAMPIbpmSAMPI",
    "bomCROSSED SHEIbpmCROSSED SHEIbomOLD COPTIC SHEIbpmOLD COPTIC SHEIbomOLD COPTIC ESH",
    "bpmOLD COPTIC ESHbomAKHMIMIC KHEIbpmAKHMIMIC KHEIbomDIALECT-P HORIbpmDIALECT-P HORI",
    "bomOLD COPTIC HORIbpmOLD COPTIC HORIbomOLD COPTIC HAbpmOLD COPTIC HAbomL-SHAPED HA",
    "bpmL-SHAPED HAbomOLD COPTIC HEIbpmOLD COPTIC HEIbomOLD COPTIC HATbpmOLD COPTIC HAT",
    "bomOLD COPTIC GANGIAbpmOLD COPTIC GANGIAbomOLD COPTIC DJAbpmOLD COPTIC DJA",
    "bomOLD COPTIC SHIMAbpmOLD COPTIC SHIMAbomOLD NUBIAN SHIMAbpmOLD NUBIAN SHIMA",
    "bomOLD NUBIAN NGIbpmOLD NUBIAN NGIbomOLD NUBIAN NYIbpmOLD NUBIAN NYIbomOLD NUBIAN WAU",
    "bpmOLD NUBIAN WAUbSYMBOL KAIcMI ROcPI ROcSTAUROScTAU ROcKHI ROcSHIMA SIMA",
    "bomCRYPTOGRAMMIC SHEIbpmCRYPTOGRAMMIC SHEIbomCRYPTOGRAMMIC GANGIAbpmCRYPTOGRAMMIC GANGIA",
    "bCOMBINING NI ABOVEcSPIRITUS ASPERdLENISbomBOHAIRIC KHEIbpmBOHAIRIC KHEI"]⟩,
  ⟨0x2cf9,
   ["aCOPTIC OLD NUBIAN FULL STOPdDIRECT QUESTION MARKdINDIRECT QUESTION MARKdVERSE DIVIDER",
    "bFRACTION ONE HALFbFULL STOPbMORPHOLOGICAL DIVIDERaGEORGIAN pmANdBANdGANdDONdENdVINdZENdTAN",
    "dINdKANdLASdMANdNARdONdPARdZHARdRAEdSANdTARdUNdPHARdKHARdGHANdQARdSHINdCHINdCANdJILdCIL",
    "dCHARdXANdJHANdHAEdHEdHIEdWEdHARdHOE"]⟩,
  ⟨0x2d27, ["aGEORGIAN pmYN"]⟩, ⟨0x2d2d, ["aGEORGIAN pmAEN"]⟩,
  ⟨0x2d30,
   ["aTIFINAGH mYAcYABcYABHcYAGcYAGHHcBERBER ACADEMY YAJcYAJcYADcYADHcYADDcYADDHcYEYcYAFcYAK",
    "cTUAREG YAKcYAKHHcYAHcBERBER ACADEMY YAHcTUAREG YAHcYAHHcYAAcYAKHcTUAREG YAKHcYAQ",
    "cTUAREG YAQcYIcYAZHcAHAGGAR YAZHcTUAREG YAZHcYALcYAMcYANcTUAREG YAGNdYANGcYAPcYUcYARcYARR",
    "cYAGHcTUAREG YAGHcAYER YAGHcYAScYASScYASHcYATcYATHcYACHcYATTcYAVcYAWcYAYcYAZcTAWELLEMET YAZ",
    "cYAZZcYEcYO"]⟩,
  ⟨0x2d6f, ["aTIFINAGH MODIFIER mLABIALIZATION MARKbSEPARATOR MARK"]⟩,
  ⟨0x2d7f,
   ["aTIFINAGH CONSONANT JOINERaETHIOPIC SYLLABLE LOAcMOAcROAcSOAcSHOAcBOAcTOAcCOAcNOAcNYOA",
    "cGLOTTAL OAcZOAcDOAcDDOAcJOAcTHOAcCHOAcPHOAcPOAcGGWAcGGWIcGGWEEcGGWE"]⟩,
  ⟨0x2da0, ["aETHIOPIC SYLLABLE SSAcSSUcSSIcSSAAcSSEEcSSEcSSO"]⟩,
  ⟨0x2da8, ["aETHIOPIC SYLLABLE CCAcCCUcCCIcCCAAcCCEEcCCEcCCO"]⟩,
  ⟨0x2db0, ["aETHIOPIC SYLLABLE ZZAcZZUcZZIcZZAAcZZEEcZZEcZZO"]⟩,
  ⟨0x2db8, ["aETHIOPIC SYLLABLE CCHAcCCHUcCCHIcCCHAAcCCHEEcCCHEcCCHO"]⟩,
  ⟨0x2dc0, ["aETHIOPIC SYLLABLE QYAcQYUcQYIcQYAAcQYEEcQYEcQYO"]⟩,
  ⟨0x2dc8, ["aETHIOPIC SYLLABLE KYAcKYUcKYIcKYAAcKYEEcKYEcKYO"]⟩,
  ⟨0x2dd0, ["aETHIOPIC SYLLABLE XYAcXYUcXYIcXYAAcXYEEcXYEcXYO"]⟩,
  ⟨0x2dd8, ["aETHIOPIC SYLLABLE GYAcGYUcGYIcGYAAcGYEEcGYEcGYO"]⟩,
  ⟨0x2de0,
   ["aCOMBINING CYRILLIC mBEdVEdGHEdDEdZHEdZEdKAdELdEMdENdOdPEdERdESdTEdHAdTSEdCHEdSHAdSHCHA",
    "dFITAdES-TEdAdIEdDJERVdMONOGRAPH UKdYATdYUdIOTIFIED AdLITTLE YUSdBIG YUSdIOTIFIED BIG YUS",
    "auANGLE SUBSTITUTION MARKERcDOTTED SUBSTITUTION MARKERaxSUBSTITUTION BRACKET",
    "auSUBSTITUTION BRACKETaxDOTTED SUBSTITUTION BRACKETauDOTTED SUBSTITUTION BRACKET",
    "aRAISED INTERPOLATION MARKERbDOTTED INTERPOLATION MARKERaDOTTED TRANSPOSITION MARKER",
    "axTRANSPOSITION BRACKETauTRANSPOSITION BRACKETaRAISED SQUAREaxRAISED OMISSION BRACKET",
    "auRAISED OMISSION BRACKETaEDITORIAL CORONISaPARAGRAPHOSaFORKED PARAGRAPHOS",
    "aREVERSED FORKED PARAGRAPHOSaHYPODIASTOLEaDOTTED OBELOSaDOWNWARDS ANCORAaUPWARDS ANCORA",
    "aDOTTED RIGHT-POINTING ANGLEawOBLIQUE HYPHENaINVERTED INTERROBANGaPALM BRANCH",
    "aHYPHEN nDIAERESISaTILDE nRING ABOVEaxLOW PARAPHRASE BRACKETauLOW PARAPHRASE BRACKET",
    "aTILDE nDOT ABOVEdBELOWaxVERTICAL BAR nQUILLauVERTICAL BAR nQUILLaTOP xHALF BRACKET",
    "buHALF BRACKETaBOTTOM xHALF BRACKETbuHALF BRACKETaxSIDEWAYS U BRACKETauSIDEWAYS U BRACKET",
    "axwPARENTHESISauwPARENTHESISaTWO DOTS OVER ONE DOT PUNCTUATION",
    "aONE DOT OVER TWO DOTS PUNCTUATIONaSQUARED FOUR DOT PUNCTUATIONaFIVE DOT MARK",
    "aREVERSED QUESTION MARKaVERTICAL TILDEaRING POINTaWORD SEPARATOR MIDDLE DOTaTURNED COMMA",
    "aRAISED DOTbCOMMAaTURNED SEMICOLONaDAGGER nxGUARDcuGUARDaTURNED DAGGER",
    "aTOP HALF SECTION SIGNaTWO-EM DASHaTHREE-EM DASHaSTENOGRAPHIC FULL STOPaVERTICAL SIX DOTS",
    "aWIGGLY VERTICAL LINEaCAPITULUMawHYPHENaREVERSED COMMAawLOW-REVERSED-9 QUOTATION MARK",
    "aDASH nxUPTURNawSUSPENSION MARKaINVERTED LOW KAVYKAcKAVYKA nKAVYKA ABOVEaLOW KAVYKA",
    "bKAVYKA nDOTawSTACKED COMMAaDOTTED SOLIDUSaTRIPLE DAGGERaMEDIEVAL COMMAaPARAGRAPHUS MARK",
    "aPUNCTUS ELEVATUS MARKaCORNISH VERSE DIVIDERaCROSS PATTY nuCROSSBARdxCROSSBARaTIRONIAN yoET",
    "aMEDIEVAL EXCLAMATION MARKbQUESTION MARKaxSQUARE BRACKET nSTROKEauSQUARE BRACKET nSTROKE",
    "axSQUARE BRACKET nwSTROKEauSQUARE BRACKET nwSTROKEaTOP HALF xPARENTHESIScuPARENTHESIS",
    "aBOTTOM HALF xPARENTHESIScuPARENTHESISaOBLIQUE HYPHEN"]⟩,
  ⟨0x2e80,
   ["aCJK RADICAL REPEATcCLIFFcSECOND ONEdTWOdTHREEcPERSONcBOXcTABLEcKNIFE ONEdTWOcDIVINATION",
    "cSEALcpONEdTWOcLAME ONEdTWOdTHREEdFOURcSNAKEcTHREADcSNOUT ONEdTWOcHEART ONEdTWOcHANDcRAP"]⟩,
  ⟨0x2e9b,
   ["aCJK RADICAL CHOKEcSUNcMOONcDEATHcMOTHERcCIVILIANcWATER ONEdTWOcFIREcPAW ONEdTWO",
    "cSIMPLIFIED HALF TREE TRUNKcCOWcDOGcJADEcBOLT OF CLOTHcEYEcSPIRIT ONEdTWOcBAMBOOcSILK",
    "cC-SIMPLIFIED SILKcNET ONEdTWOdTHREEdFOURcMESHcSHEEPcRAMcEWEcOLDcBRUSH ONEdTWOcMEATcMORTAR",
    "cGRASS ONEdTWOdTHREEcTIGERcCLOTHEScWEST ONEdTWOcC-SIMPLIFIED SEEcSIMPLIFIED HORNcHORN",
    "cC-SIMPLIFIED SPEECHeSHELLcFOOTcC-SIMPLIFIED CARTcSIMPLIFIED WALKcWALK ONEdTWOcCITY",
    "cC-SIMPLIFIED GOLDcLONG ONEdTWOcC-SIMPLIFIED LONGeGATEcMOUND ONEdTWOcRAINcBLUE",
    "cC-SIMPLIFIED TANNED LEATHEReLEAFeWINDeFLYcEAT ONEdTWOdTHREEcC-SIMPLIFIED EATcHEAD",
    "cC-SIMPLIFIED HORSEcBONEcGHOSTcC-SIMPLIFIED FISHeBIRDeSALTcSIMPLIFIED WHEATdYELLOW",
    "cC-SIMPLIFIED FROGcJ-SIMPLIFIED EVENcC-SIMPLIFIED EVENcJ-SIMPLIFIED TOOTH",
    "cC-SIMPLIFIED TOOTHcJ-SIMPLIFIED DRAGONcC-SIMPLIFIED DRAGONcTURTLEcJ-SIMPLIFIED TURTLE",
    "cC-SIMPLIFIED TURTLE"]⟩,
  ⟨0x2f00,
   ["aKANGXI RADICAL ONEcLINEcDOTcSLASHcSECONDcHOOKcTWOcLIDcMANcLEGScENTERcEIGHTcDOWN BOXcCOVER",
    "cICEcTABLEcOPEN BOXcKNIFEcPOWERcWRAPcSPOONcuOPEN BOXcHIDING ENCLOSUREcTENcDIVINATIONcSEAL",
    "cCLIFFcPRIVATEcAGAINcMOUTHcENCLOSUREcEARTHcSCHOLARcGOcGO SLOWLYcEVENINGcBIGcWOMANcCHILD",
    "cROOFcINCHcSMALLcLAMEcCORPSEcSPROUTcMOUNTAINcRIVERcWORKcONESELFcTURBANcDRYcSHORT THREAD",
    "cDOTTED CLIFFcLONG STRIDEcTWO HANDScSHOOTcBOWcSNOUTcBRISTLEcSTEPcHEARTcHALBERDcDOORcHAND",
    "cBRANCHcRAPcSCRIPTcDIPPERcAXEcSQUAREcNOTcSUNcSAYcMOONcTREEcLACKcSTOPcDEATHcWEAPONcDO NOT",
    "cCOMPAREcFURcCLANcSTEAMcWATERcFIREcCLAWcFATHERcwXcHALF TREE TRUNKcSLICEcFANGcCOWcDOG",
    "cPROFOUNDcJADEcMELONcTILEcSWEETcLIFEcUSEcFIELDcBOLT OF CLOTHcSICKNESScDOTTED TENTcWHITE",
    "cSKINcDISHcEYEcSPEARczcSTONEcSPIRITcTRACKcGRAINcCAVEcSTANDcBAMBOOcRICEcSILKcJARcNETcSHEEP",
    "cFEATHERcOLDcANDcPLOWcEARcBRUSHcMEATcMINISTERcSELFcARRIVEcMORTARcTONGUEcOPPOSEcBOAT",
    "cSTOPPINGcCOLORcGRASScTIGERcINSECTcBLOODcWALK ENCLOSUREcCLOTHEScWESTcSEEcHORNcSPEECHcVALLEY",
    "cBEANcPIGcBADGERcSHELLcREDcRUNcFOOTcBODYcCARTcBITTERcMORNINGcWALKcCITYcWINEcDISTINGUISH",
    "cVILLAGEcGOLDcLONGcGATEcMOUNDcSLAVEcSHORT TAILED BIRDcRAINcBLUEcWRONGcFACEcLEATHER",
    "cTANNED LEATHERcLEEKcSOUNDcLEAFcWINDcFLYcEATcHEADcFRAGRANTcHORSEcBONEcTALLcHAIRcFIGHT",
    "cSACRIFICIAL WINEcCAULDRONcGHOSTcFISHcBIRDcSALTcDEERcWHEATcHEMPcYELLOWcMILLETcBLACK",
    "cEMBROIDERYcFROGcTRIPODcDRUMcRATcNOSEcEVENcTOOTHcDRAGONcTURTLEcFLUTE"]⟩,
  ⟨0x2ff0,
   ["aIDEOGRAPHIC DESCRIPTION CHARACTER xTO RIGHTdABOVE TO BELOWdxTO MIDDLE tRIGHT",
    "dABOVE TO MIDDLE tBELOWdFULL SURROUNDdSURROUND FROM ABOVEfBELOWfLEFTfUPPER LEFTgRIGHT",
    "fLOWER LEFTdOVERLAID"]⟩,
  ⟨0x3000,
   ["aIDEOGRAPHIC SPACEbCOMMAbFULL STOPaDITTO MARKaJAPANESE INDUSTRIAL STANDARD SYMBOL",
    "aIDEOGRAPHIC ITERATION MARKbCLOSING MARKbNUMBER ZEROaxANGLE BRACKETauANGLE BRACKET",
    "axwANGLE BRACKETauwANGLE BRACKETaxCORNER BRACKETauCORNER BRACKETaxWHITE CORNER BRACKET",
    "auWHITE CORNER BRACKETaxBLACK LENTICULAR BRACKETauBLACK LENTICULAR BRACKETaPOSTAL MARK",
    "aGETA MARKaxTORTOISE SHELL BRACKETauTORTOISE SHELL BRACKETaxWHITE LENTICULAR BRACKET",
    "auWHITE LENTICULAR BRACKETaxWHITE TORTOISE SHELL BRACKETauWHITE TORTOISE SHELL BRACKET",
    "axWHITE SQUARE BRACKETauWHITE SQUARE BRACKETaWAVE DASHaREVERSED wPRIME QUOTATION MARK",
    "awPRIME QUOTATION MARKaLOW wPRIME QUOTATION MARKaPOSTAL MARK FACEaHANGZHOU NUMERAL ONEcTWO",
    "cTHREEcFOURcFIVEcSIXcSEVENcEIGHTcNINEaIDEOGRAPHIC LEVEL TONE MARKbRISING TONE MARK",
    "bDEPARTING TONE MARKbENTERING TONE MARKaHANGUL SINGLE DOT TONE MARKbwDOT TONE MARK",
    "aWAVY DASHaVERTICAL KANA REPEAT MARKdnVOICED SOUND MARKdMARK UPPER HALF",
    "dnVOICED SOUND MARK UPPER HALFdMARK LOWER HALFaCIRCLED POSTAL MARK",
    "aIDEOGRAPHIC TELEGRAPH LINE FEED SEPARATOR SYMBOLaHANGZHOU NUMERAL TENcTWENTYcTHIRTY",
    "aVERTICAL IDEOGRAPHIC ITERATION MARKaMASU MARKaPART ALTERNATION MARK",
    "aIDEOGRAPHIC VARIATION INDICATORbHALF FILL SPACE"]⟩,
  ⟨0x3041,
   ["aHIRAGANA mpAcAcpIcIcpUcUcpEcEcpOcOcKAcGAcKIcGIcKUcGUcKEcGEcKOcGOcSAcZAcSIcZIcSUcZUcSEcZE",
    "cSOcZOcTAcDAcTIcDIcpTUcTUcDUcTEcDEcTOcDOcNAcNIcNUcNEcNOcHAcBAcPAcHIcBIcPIcHUcBUcPUcHEcBEcPE",
    "cHOcBOcPOcMAcMIcMUcMEcMOcpYAcYAcpYUcYUcpYOcYOcRAcRIcRUcREcROcpWAcWAcWIcWEcWOcNcVUcpKAdKE"]⟩,
  ⟨0x3099,
   ["aCOMBINING KATAKANA-HIRAGANA VOICED SOUND MARKdSEMI-VOICED SOUND MARK",
    "aKATAKANA-HIRAGANA VOICED SOUND MARKcSEMI-VOICED SOUND MARKaHIRAGANA ITERATION MARK",
    "bVOICED ITERATION MARKbDIGRAPH YORIaKATAKANA-HIRAGANA wHYPHENaKATAKANA mpAcAcpIcIcpUcUcpEcE",
    "cpOcOcKAcGAcKIcGIcKUcGUcKEcGEcKOcGOcSAcZAcSIcZIcSUcZUcSEcZEcSOcZOcTAcDAcTIcDIcpTUcTUcDUcTE",
    "cDEcTOcDOcNAcNIcNUcNEcNOcHAcBAcPAcHIcBIcPIcHUcBUcPUcHEcBEcPEcHOcBOcPOcMAcMIcMUcMEcMOcpYAcYA",
    "cpYUcYUcpYOcYOcRAcRIcRUcREcROcpWAcWAcWIcWEcWOcNcVUcpKAdKEcVAcVIcVEcVObMIDDLE DOT",
    "aKATAKANA-HIRAGANA PROLONGED SOUND MARKaKATAKANA ITERATION MARKbVOICED ITERATION MARK",
    "bDIGRAPH KOTO"]⟩,
  ⟨0x3105,
   ["aBOPOMOFO mBcPcMcFcDcTcNcLcGcKcHcJcQcXcZHcCHcSHcRcZcCcScAcOcEcEHcAIcEIcAUcOUcANcENcANGcENG",
    "cERcIcUcIUcVcNGcGNcIHcO nDOT ABOVEcNN"]⟩,
  ⟨0x3131,
   ["aHANGUL mKIYEOKcSSANGKIYEOKcKIYEOK-SIOScNIEUNcNIEUN-CIEUCdHIEUHcTIKEUTcSSANGTIKEUTcRIEUL",
    "cRIEUL-KIYEOKdMIEUMdPIEUPdSIOSdTHIEUTHdPHIEUPHdHIEUHcMIEUMcPIEUPcSSANGPIEUPcPIEUP-SIOScSIOS",
    "cSSANGSIOScIEUNGcCIEUCcSSANGCIEUCcCHIEUCHcKHIEUKHcTHIEUTHcPHIEUPHcHIEUHcAcAEcYAcYAEcEOcE",
    "cYEOcYEcOcWAcWAEcOEcYOcUcWEOcWEcWIcYUcEUcYIcIbFILLERbmSSANGNIEUNcNIEUN-TIKEUTdSIOSdPANSIOS",
    "cRIEUL-KIYEOK-SIOSdTIKEUTdPIEUP-SIOSdPANSIOSdYEORINHIEUHcMIEUM-PIEUPdSIOSdPANSIOS",
    "cKAPYEOUNMIEUMcPIEUP-KIYEOKdTIKEUTdSIOS-KIYEOKeTIKEUTdCIEUCdTHIEUTHcKAPYEOUNPIEUP",
    "cKAPYEOUNSSANGPIEUPcSIOS-KIYEOKdNIEUNdTIKEUTdPIEUPdCIEUCcPANSIOScSSANGIEUNGcYESIEUNG",
    "cYESIEUNG-SIOSdPANSIOScKAPYEOUNPHIEUPHcSSANGHIEUHcYEORINHIEUHcYO-YAdYAEdIcYU-YEOdYEdIcARAEA",
    "cARAEAE"]⟩,
  ⟨0x3190,
   ["aIDEOGRAPHIC ANNOTATION LINKING MARKcREVERSE MARKcONE MARKcTWO MARKcTHREE MARKcFOUR MARK",
    "cTOP MARKcMIDDLE MARKcBOTTOM MARKcFIRST MARKcSECOND MARKcTHIRD MARKcFOURTH MARKcHEAVEN MARK",
    "cEARTH MARKcMAN MARKaBOPOMOFO mBUcZIcJIcGUcEEcENNcOOcONNcIRcANNcINNcUNNcIMcNGGcAINNcAUNNcAM",
    "cOMcONGcINNNbFINAL mPdTdKdHbmGHcLHcZYbFINAL mGbmGWcKWcOEcAHaCJK STROKE TcWGcXGcBXGcSWcHZZ",
    "cHZGcHPcHZWGcSZWGcHZTcHZZPcHPWGcHZWcHZZZcNcHcScPcSPcDcHZcHGcSZcSWZcSTcSGcPDcPZcTNcSZZcSWG",
    "cHXWGcHZZZGcPGcQ"]⟩,
  ⟨0x31f0,
   ["aKATAKANA mpKUdSIdSUdTOdNUdHAdHIdHUdHEdHOdMUdRAdRIdRUdREdROaPARENTHESIZED HANGUL KIYEOK",
    "cNIEUNcTIKEUTcRIEULcMIEUMcPIEUPcSIOScIEUNGcCIEUCcCHIEUCHcKHIEUKHcTHIEUTHcPHIEUPHcHIEUH",
    "cKIYEOK AcNIEUN AcTIKEUT AcRIEUL AcMIEUM AcPIEUP AcSIOS AcIEUNG AcCIEUC AcCHIEUCH A",
    "cKHIEUKH AcTHIEUTH AcPHIEUPH AcHIEUH AcCIEUC UbKOREAN CHARACTER OJEONdO HU"]⟩,
  ⟨0x3220,
   ["aPARENTHESIZED IDEOGRAPH ONEcTWOcTHREEcFOURcFIVEcSIXcSEVENcEIGHTcNINEcTENcMOONcFIREcWATER",
    "cWOODcMETALcEARTHcSUNcSTOCKcHAVEcSOCIETYcNAMEcSPECIALcFINANCIALcCONGRATULATIONcLABOR",
    "cREPRESENTcCALLcSTUDYcSUPERVISEcENTERPRISEcRESOURCEcALLIANCEcFESTIVALcRESTcSELFcREACH",
    "aCIRCLED IDEOGRAPH QUESTIONcKINDERGARTENcSCHOOLcKOTObNUMBER TEN ON BLACK SQUARE",
    "cTWENTY ON BLACK SQUAREcTHIRTY ON BLACK SQUAREcFORTY ON BLACK SQUAREcFIFTY ON BLACK SQUARE",
    "cSIXTY ON BLACK SQUAREcSEVENTY ON BLACK SQUAREcEIGHTY ON BLACK SQUAREaPARTNERSHIP SIGN",
    "aCIRCLED NUMBER TWENTY ONEdTWOdTHREEdFOURdFIVEdSIXdSEVENdEIGHTdNINEcTHIRTYcTHIRTY ONEdTWO",
    "dTHREEdFOURdFIVEbHANGUL KIYEOKcNIEUNcTIKEUTcRIEULcMIEUMcPIEUPcSIOScIEUNGcCIEUCcCHIEUCH",
    "cKHIEUKHcTHIEUTHcPHIEUPHcHIEUHcKIYEOK AcNIEUN AcTIKEUT AcRIEUL AcMIEUM AcPIEUP AcSIOS A",
    "cIEUNG AcCIEUC AcCHIEUCH AcKHIEUKH AcTHIEUTH AcPHIEUPH AcHIEUH AbKOREAN CHARACTER CHAMKO",
    "dJUEUIbHANGUL IEUNG UaKOREAN STANDARD SYMBOLaCIRCLED IDEOGRAPH ONEcTWOcTHREEcFOURcFIVEcSIX",
    "cSEVENcEIGHTcNINEcTENcMOONcFIREcWATERcWOODcMETALcEARTHcSUNcSTOCKcHAVEcSOCIETYcNAMEcSPECIAL",
    "cFINANCIALcCONGRATULATIONcLABORcSECRETcMALEcFEMALEcSUITABLEcEXCELLENTcPRINTcATTENTIONcITEM",
    "cRESTcCOPYcCORRECTcHIGHcCENTREcLOWcLEFTcRIGHTcMEDICINEcRELIGIONcSTUDYcSUPERVISEcENTERPRISE",
    "cRESOURCEcALLIANCEcNIGHTbNUMBER THIRTY SIXdSEVENdEIGHTdNINEcFORTYcFORTY ONEdTWOdTHREEdFOUR",
    "dFIVEdSIXdSEVENdEIGHTdNINEcFIFTYaIDEOGRAPHIC TELEGRAPH SYMBOL FOR JANUARYeFEBRUARYeMARCH",
    "eAPRILeMAYeJUNEeJULYeAUGUSTeSEPTEMBEReOCTOBEReNOVEMBEReDECEMBERaSQUARE HGbERGbEV",
    "aLIMITED LIABILITY SIGNaCIRCLED KATAKANA AcIcUcEcOcKAcKIcKUcKEcKOcSAcSIcSUcSEcSOcTAcTIcTU",
    "cTEcTOcNAcNIcNUcNEcNOcHAcHIcHUcHEcHOcMAcMIcMUcMEcMOcYAcYUcYOcRAcRIcRUcREcROcWAcWIcWEcWO",
    "aSQUARE ERA NAME REIWAbAPAATObARUHUAbANPEAbAARUbININGUbINTIbUONbESUKUUDObEEKAAbONSUbOOMU",
    "bKAIRIbKARATTObKARORIIbGARONbGANMAbGIGAbGINIIbKYURIIbGIRUDAAbKIRObKIROGURAMUbKIROMEETORU",
    "bKIROWATTObGURAMUbGURAMUTONbKURUZEIRObKUROONEbKEESUbKORUNAbKOOPObSAIKURUbSANTIIMUbSIRINGU",
    "bSENTIbSENTObDAASUbDESIbDORUbTONbNANObNOTTObHAITUbPAASENTObPAATUbBAARERUbPIASUTORUbPIKURU",
    "bPIKObBIRUbHUARADDObHUIITObBUSSYERUbHURANbHEKUTAARUbPESObPENIHIbHERUTUbPENSUbPEEZIbBEETA",
    "bPOINTObBORUTObHONbPONDObHOORUbHOONbMAIKURObMAIRUbMAHHAbMARUKUbMANSYONbMIKURONbMIRI",
    "bMIRIBAARUbMEGAbMEGATONbMEETORUbYAADObYAARUbYUANbRITTORUbRIRAbRUPIIbRUUBURUbREMUbRENTOGEN",
    "bWATTOaIDEOGRAPHIC TELEGRAPH SYMBOL FOR HOUR ZEROfONEfTWOfTHREEfFOURfFIVEfSIXfSEVENfEIGHT",
    "fNINEfTENfELEVENfTWELVEfTHIRTEENfFOURTEENfFIFTEENfSIXTEENfSEVENTEENfEIGHTEENfNINETEEN",
    "fTWENTYfTWENTY-ONEgTWOgTHREEgFOURaSQUARE HPAbDAbAUbBARbOVbPCbDMbDM SQUAREDcCUBEDbIU",
    "bERA NAME HEISEIdSYOUWAdTAISYOUdMEIZIbCORPORATIONbPA AMPSbNAbMU AbMAbKAbKBbMBbGBbCALbKCAL",
    "bPFbNFbMU FcGbMGbKGbHZbKHZbMHZbGHZbTHZbMU LbMLbDLbKLbFMbNMbMU MbMMbCMbKMbMM SQUARED",
    "bCM SQUAREDbM SQUAREDbKM SQUAREDbMM CUBEDbCM CUBEDbM CUBEDbKM CUBEDbM OVER SdS SQUAREDbPA",
    "bKPAbMPAbGPAbRADbRAD OVER SdS SQUAREDbPSbNSbMU SbMSbPVbNVbMU VbMVbKVbMV MEGAbPWbNWbMU WbMW",
    "bKWbMW MEGAbK OHMbM OHMbAMbBQbCCbCDbC OVER KGbCObDBbGYbHAbHPbINbKKbKM CAPITALbKTbLMbLNbLOG",
    "bLXbMB SMALLbMILbMOLbPHbPMbPPMbPRbSRbSVbWBbV OVER MbA OVER M",
    "aIDEOGRAPHIC TELEGRAPH SYMBOL FOR DAY ONEfTWOfTHREEfFOURfFIVEfSIXfSEVENfEIGHTfNINEfTEN",
    "fELEVENfTWELVEfTHIRTEENfFOURTEENfFIFTEENfSIXTEENfSEVENTEENfEIGHTEENfNINETEENfTWENTY",
    "fTWENTY-ONEgTWOgTHREEgFOURgFIVEgSIXgSEVENgEIGHTgNINEfTHIRTYfTHIRTY-ONEaSQUARE GAL"]⟩,
  ⟨0x4dc0,
   ["aHEXAGRAM FOR THE CREATIVE HEAVENdRECEPTIVE EARTHcDIFFICULTY AT THE BEGINNING",
    "cYOUTHFUL FOLLYcWAITINGcCONFLICTcTHE ARMYcHOLDING TOGETHERcpTAMINGcTREADINGcPEACE",
    "cSTANDSTILLcFELLOWSHIPcGREAT POSSESSIONcMODESTYcENTHUSIASMcFOLLOWINGcWORK ON THE DECAYED",
    "cAPPROACHcCONTEMPLATIONcBITING THROUGHcGRACEcSPLITTING APARTcRETURNcINNOCENCEcGREAT TAMING",
    "cMOUTH CORNERScGREAT PREPONDERANCEcTHE ABYSMAL WATERdCLINGING FIREcINFLUENCEcDURATION",
    "cRETREATcGREAT POWERcPROGRESScDARKENING OF THE LIGHTcTHE FAMILYcOPPOSITIONcOBSTRUCTION",
    "cDELIVERANCEcDECREASEcINCREASEcBREAKTHROUGHcCOMING TO MEETcGATHERING TOGETHER",
    "cPUSHING UPWARDcOPPRESSIONcTHE WELLcREVOLUTIONcTHE CAULDRONdAROUSING THUNDER",
    "dKEEPING STILL MOUNTAINcDEVELOPMENTcTHE MARRYING MAIDENcABUNDANCEcTHE WANDERERdGENTLE WIND",
    "dJOYOUS LAKEcDISPERSIONcLIMITATIONcINNER TRUTHcpPREPONDERANCEcAFTER COMPLETION",
    "cBEFORE COMPLETION"]⟩,
  ⟨0x1d000,
   ["aBYZANTINE MUSICAL SYMBOL PSILIdDASEIAdPERISPOMENIdOXEIA EKFONITIKONeDIPLI",
    "dVAREIA EKFONITIKONeDIPLIdKATHISTIdSYRMATIKIdPARAKLITIKIdYPOKRISISdYPOKRISIS DIPLIdKREMASTI",
    "dAPESO EKFONITIKONdEXO EKFONITIKONdTELEIAdKENTIMATAdAPOSTROFOSdAPOSTROFOS DIPLIdSYNEVMA",
    "dTHITAdOLIGON ARCHAIONdGORGON ARCHAIONdPSILONdCHAMILONdVATHYdISON ARCHAIONdKENTIMA ARCHAION",
    "dKENTIMATA ARCHAIONdSAXIMATAdPARICHONdSTAVROS APODEXIAdOXEIAI ARCHAIONdVAREIAI ARCHAION",
    "dAPODERMA ARCHAIONdAPOTHEMAdKLASMAdREVMAdPIASMA ARCHAIONdTINAGMAdANATRICHISMAdSEISMA",
    "dSYNAGMA ARCHAIONeMETA STAVROUdOYRANISMA ARCHAIONdTHEMAdLEMOIdDYOdTRIAdTESSERAdKRATIMATA",
    "dAPESO EXO NEOdFTHORA ARCHAIONdIMIFTHORAdTROMIKON ARCHAIONdKATAVA TROMIKONdPELASTON",
    "dPSIFISTONdKONTEVMAdCHOREVMA ARCHAIONdRAPISMAdPARAKALESMA ARCHAIONdPARAKLITIKI ARCHAION",
    "dICHADINdNANAdPETASMAdKONTEVMA ALLOdTROMIKON ALLOdSTRAGGISMATAdGRONTHISMATAdISON NEO",
    "dOLIGON NEOdOXEIA NEOdPETASTIdKOUFISMAdPETASTOKOUFISMAdKRATIMOKOUFISMAdPELASTON NEO",
    "dKENTIMATA NEO ANOdKENTIMA NEO ANOdYPSILIdAPOSTROFOS NEOdAPOSTROFOI SYNDESMOS NEOdYPORROI",
    "dKRATIMOYPORROONdELAFRONdCHAMILIdMIKRON ISONdVAREIA NEOdPIASMA NEOdPSIFISTON NEOdOMALON",
    "dANTIKENOMAdLYGISMAdPARAKLITIKI NEOdPARAKALESMA NEOdETERON PARAKALESMAdKYLISMA",
    "dANTIKENOKYLISMAdTROMIKON NEOdEKSTREPTONdSYNAGMA NEOdSYRMAdCHOREVMA NEOdEPEGERMAdSEISMA NEO",
    "dXIRON KLASMAdTROMIKOPSIFISTONdPSIFISTOLYGISMAdTROMIKOLYGISMAdTROMIKOPARAKALESMA",
    "dPSIFISTOPARAKALESMAdTROMIKOSYNAGMAdPSIFISTOSYNAGMAdGORGOSYNTHETONdARGOSYNTHETON",
    "dETERON ARGOSYNTHETONdOYRANISMA NEOdTHEMATISMOS ESOeEXOdTHEMA APLOUNdTHES KAI APOTHES",
    "dKATAVASMAdENDOFONONdYFEN KATOeANOdSTAVROSdKLASMA ANOdDIPLI ARCHAIONdKRATIMA ARCHAIONeALLO",
    "eNEOdAPODERMA NEOdAPLIdDIPLIdTRIPLIdTETRAPLIdKORONISdLEIMMA ENOS CHRONOUeDYO CHRONON",
    "eTRION CHRONONeTESSARON CHRONONeIMISEOS CHRONOUdGORGON NEO ANOePARESTIGMENON ARISTERAfDEXIA",
    "dDIGORGONdDIGORGON PARESTIGMENON ARISTERA KATOgANOfDEXIAdTRIGORGONdARGONdIMIDIARGONdDIARGON",
    "dAGOGI POLI ARGIeARGOTERIeARGIeMETRIAeMESIeGORGIeGORGOTERIePOLI GORGIdMARTYRIA PROTOS ICHOS",
    "eALLI PROTOS ICHOSeDEYTEROS ICHOSeALLI DEYTEROS ICHOSeTRITOS ICHOSeTRIFONIASeTETARTOS ICHOS",
    "fLEGETOS ICHOSeLEGETOS ICHOSePLAGIOS ICHOSdISAKIA TELOUS ICHIMATOS",
    "dAPOSTROFOI TELOUS ICHIMATOSdFANEROSIS TETRAFONIASeMONOFONIASeDIFONIASdMARTYRIA VARYS ICHOS",
    "ePROTOVARYS ICHOSePLAGIOS TETARTOS ICHOSdGORTHMIKON N APLOUNfDIPLOUNdENARXIS KAI FTHORA VOU",
    "dIMIFONONdIMIFTHORONdFTHORA ARCHAION DEYTEROU ICHOUeDIATONIKI PAfNANAeNAOS ICHOS",
    "eDIATONIKI DIeSKLIRON DIATONON DIeDIATONIKI KEfZOfNI KATOgANOeMALAKON CHROMA DIFONIAS",
    "gMONOFONIASdFHTORA SKLIRON CHROMA VASISdFTHORA SKLIRON CHROMA SYNAFIeNENANOdCHROA ZYGOS",
    "eKLITONeSPATHIdFTHORA I YFESIS TETARTIMORIONeENARMONIOS ANTIFONIAdYFESIS TRITIMORION",
    "dDIESIS TRITIMORIONeTETARTIMORIONeAPLI DYO DODEKATAeMONOGRAMMOS TESSERA DODEKATA",
    "eDIGRAMMOS EX DODEKATAeTRIGRAMMOS OKTO DODEKATAdYFESIS APLI DYO DODEKATA",
    "eMONOGRAMMOS TESSERA DODEKATAeDIGRAMMOS EX DODEKATAeTRIGRAMMOS OKTO DODEKATAdGENIKI DIESIS",
    "eYFESISdDIASTOLI APLI MIKRIfMEGALIeDIPLIeTHESEOSdSIMANSIS THESEOSeTHESEOS DISIMOUfTRISIMOU",
    "fTETRASIMOUeARSEOSeARSEOS DISIMOUfTRISIMOUfTETRASIMOUdDIGRAMMA GGdDIFTOGGOS OUdSTIGMA",
    "dARKTIKO PAeVOUeGAeDIeKEeZOeNIdKENTIMATA NEO MESOdKENTIMA NEO MESOdKENTIMATA NEO KATO",
    "dKENTIMA NEO KATOdKLASMA KATOdGORGON NEO KATO"]⟩,
  ⟨0x1d100,
   ["aMUSICAL SYMBOL SINGLE BARLINEcwBARLINEcFINAL BARLINEcREVERSE FINAL BARLINEcDASHED BARLINE",
    "cSHORT BARLINEcxREPEAT SIGNcuREPEAT SIGNcREPEAT DOTScDAL SEGNOcDA CAPOcSEGNOcCODA",
    "cREPEATED FIGURE-1e2e3cFERMATAcFERMATA BELOWcBREATH MARKcCAESURAcBRACEcBRACKET",
    "cONE-LINE STAFFcTWO-LINE STAFFcTHREE-LINE STAFFcFOUR-LINE STAFFcFIVE-LINE STAFF",
    "cSIX-LINE STAFFdSTRING FRETBOARDcFOUR-STRING FRETBOARDcG CLEFdCLEF OTTAVA ALTAfBASSAcC CLEF",
    "cF CLEFdCLEF OTTAVA ALTAfBASSAcDRUM CLEF-1e2"]⟩,
  ⟨0x1d129,
   ["aMUSICAL SYMBOL MULTIPLE MEASURE RESTcwSHARPdFLATcFLAT UPdDOWNcNATURAL UPdDOWNcSHARP UP",
    "dDOWNcQUARTER TONE SHARPeFLATcCOMMON TIMEcCUT TIMEcOTTAVA ALTAdBASSAcQUINDICESIMA ALTA",
    "dBASSAcMULTI RESTcWHOLE RESTcHALF RESTcQUARTER RESTcEIGHTH RESTcSIXTEENTH REST",
    "cTHIRTY-SECOND RESTcSIXTY-FOURTH RESTcONE HUNDRED TWENTY-EIGHTH RESTcX NOTEHEAD",
    "cPLUS NOTEHEADcCIRCLE X NOTEHEADcSQUARE NOTEHEAD WHITEeBLACKcTRIANGLE NOTEHEAD UP WHITE",
    "fBLACKexWHITEfBLACKeuWHITEfBLACKeDOWN WHITEfBLACKeUP uWHITEgBLACKcMOON NOTEHEAD WHITEeBLACK",
    "cTRIANGLE-ROUND NOTEHEAD DOWN WHITEgBLACKcPARENTHESIS NOTEHEADcVOID NOTEHEADcNOTEHEAD BLACK",
    "cNULL NOTEHEADcCLUSTER NOTEHEAD WHITEeBLACKcBREVEcWHOLE NOTEcHALF NOTEcQUARTER NOTE",
    "cEIGHTH NOTEcSIXTEENTH NOTEcTHIRTY-SECOND NOTEcSIXTY-FOURTH NOTE",
    "cONE HUNDRED TWENTY-EIGHTH NOTEcCOMBINING STEMdSPRECHGESANG STEMdTREMOLO-1e2e3",
    "cFINGERED TREMOLO-1e2e3cCOMBINING AUGMENTATION DOTdFLAG-1e2e3e4e5cBEGIN BEAMcEND BEAM",
    "cBEGIN TIEcEND TIEcBEGIN SLURcEND SLURcBEGIN PHRASEcEND PHRASEcCOMBINING ACCENTdSTACCATO",
    "dTENUTOdSTACCATISSIMOdMARCATOdMARCATO-STACCATOdACCENT-STACCATOdLOUREcARPEGGIATO UPdDOWN",
    "cCOMBINING DOITdRIPdFLIPdSMEARdBENDdwTONGUEdTRIPLE TONGUEcRINFORZANDOcSUBITOcZcPIANOcMEZZO",
    "cFORTEcCRESCENDOcDECRESCENDOcGRACE NOTE SLASHeNO SLASHcTRcTURNcINVERTED TURNcTURN SLASHdUP",
    "cORNAMENT STROKE-1e2e3e4e5e6e7e8e9e10e11cHAUPTSTIMMEcNEBENSTIMMEcEND OF STIMMEcDEGREE SLASH",
    "cCOMBINING DOWN BOWdUP BOWdHARMONICdSNAP PIZZICATOcPEDAL MARKdUP MARKcHALF PEDAL MARK",
    "cGLISSANDO UPdDOWNcnFINGERNAILScDAMPcDAMP ALLcMAXIMAcLONGAcBREVIScSEMIBREVIS WHITEdBLACK",
    "cMINIMAcMINIMA BLACKcSEMIMINIMA WHITEdBLACKcFUSA WHITEdBLACKcLONGA PERFECTA REST",
    "dIMPERFECTA RESTcBREVIS RESTcSEMIBREVIS RESTcMINIMA RESTcSEMIMINIMA REST",
    "cTEMPUS PERFECTUM CUM PROLATIONE PERFECTAgIMPERFECTAgPERFECTA DIMINUTION-1",
    "dIMPERFECTUM CUM PROLATIONE PERFECTAgIMPERFECTAgIMPERFECTA DIMINUTION-1i2i3cCROIX",
    "cGREGORIAN C CLEFdF CLEFcSQUARE BcVIRGAcPODATUScCLIVIScSCANDICUScCLIMACUScTORCULUS",
    "cPORRECTUScPORRECTUS FLEXUScSCANDICUS FLEXUScTORCULUS RESUPINUScPES SUBPUNCTIS",
    "cKIEVAN C CLEFdEND OF PIECEdFINAL NOTEdRECITATIVE MARKdWHOLE NOTEdHALF NOTE",
    "dQUARTER NOTE STEM DOWNgUPdEIGHTH NOTE STEM DOWNgUPdFLAT SIGNcSORIcKORON"]⟩,
  ⟨0x1d200,
   ["aGREEK VOCAL NOTATION SYMBOL-1e2e3e4e5e6e7e8e9e10e11e12e13e14e15e16e17e18e19e20e21e22e23e24",
    "e50e51e52e53e54bINSTRUMENTAL NOTATION SYMBOL-1e2e4e5e7e8e11e12e13e14e17e18e19e23e24e25e26",
    "e27e29e30e32e36e37e38e39e40e42e43e45e47e48e49e50e51e52e53e54",
    "aCOMBINING GREEK MUSICAL TRISEMEdTETRASEMEdPENTASEMEaGREEK MUSICAL LEIMMA"]⟩,
  ⟨0x1d2e0,
   ["aMAYAN NUMERAL ZEROcONEcTWOcTHREEcFOURcFIVEcSIXcSEVENcEIGHTcNINEcTENcELEVENcTWELVEcTHIRTEEN",
    "cFOURTEENcFIFTEENcSIXTEENcSEVENTEENcEIGHTEENcNINETEEN"]⟩,
  ⟨0x1d300,
   ["aMONOGRAM FOR EARTHaDIGRAM FOR HEAVENLY EARTHcHUMAN EARTHcEARTHLY HEAVENdHUMANcEARTH",
    "aTETRAGRAM FOR CENTREcFULL CIRCLEcMIREDcBARRIERcKEEPING SMALLcCONTRARIETYcASCENTcOPPOSITION",
    "cBRANCHING OUTcDEFECTIVENESS OR DISTORTIONcDIVERGENCEcYOUTHFULNESScINCREASEcPENETRATION",
    "cREACHcCONTACTcHOLDING BACKcWAITINGcFOLLOWINGcADVANCEcRELEASEcRESISTANCEcEASEcJOY",
    "cCONTENTIONcENDEAVOURcDUTIEScCHANGEcDECISIVENESScBOLD RESOLUTIONcPACKINGcLEGIONcCLOSENESS",
    "cKINSHIPcGATHERINGcSTRENGTHcPURITYcFULLNESScRESIDENCEcLAW OR MODELcRESPONSEcGOING TO MEET",
    "cENCOUNTERScSTOVEcGREATNESScENLARGEMENTcPATTERNcRITUALcFLIGHTcVASTNESS OR WASTINGcCONSTANCY",
    "cMEASUREcETERNITYcUNITYcDIMINISHMENTcCLOSED MOUTHcGUARDEDNESScGATHERING INcMASSING",
    "cACCUMULATIONcEMBELLISHMENTcDOUBTcWATCHcSINKINGcINNERcDEPARTUREcDARKENINGcDIMMING",
    "cEXHAUSTIONcSEVERANCEcSTOPPAGEcHARDNESScCOMPLETIONcCLOSUREcFAILUREcAGGRAVATIONcCOMPLIANCE",
    "cON THE VERGEcDIFFICULTIEScLABOURINGcFOSTERING"]⟩,
  ⟨0x1d360,
   ["aCOUNTING ROD UNIT DIGIT ONEeTWOeTHREEeFOUReFIVEeSIXeSEVENeEIGHTeNINEcTENS DIGIT ONEeTWO",
    "eTHREEeFOUReFIVEeSIXeSEVENeEIGHTeNINEaIDEOGRAPHIC TALLY MARK ONEdTWOdTHREEdFOURdFIVE",
    "aTALLY MARK ONEcFIVE"]⟩,
  ⟨0x1d400,
   ["aMATHEMATICAL BOLD oAdBdCdDdEdFdGdHdIdJdKdLdMdNdOdPdQdRdSdTdUdVdWdXdYdZcpAdBdCdDdEdFdGdHdI",
    "dJdKdLdMdNdOdPdQdRdSdTdUdVdWdXdYdZbITALIC oAdBdCdDdEdFdGdHdIdJdKdLdMdNdOdPdQdRdSdTdUdVdWdX",
    "dYdZcpAdBdCdDdEdFdG"]⟩,
  ⟨0x1d456,
   ["aMATHEMATICAL ITALIC pIdJdKdLdMdNdOdPdQdRdSdTdUdVdWdXdYdZbBOLD ITALIC oAeBeCeDeEeFeGeHeIeJ",
    "eKeLeMeNeOePeQeReSeTeUeVeWeXeYeZdpAeBeCeDeEeFeGeHeIeJeKeLeMeNeOePeQeReSeTeUeVeWeXeYeZ",
    "bSCRIPT oA"]⟩,
  ⟨0x1d49e, ["aMATHEMATICAL SCRIPT oCdD"]⟩, ⟨0x1d4a2, ["aMATHEMATICAL SCRIPT oG"]⟩,
  ⟨0x1d4a5, ["aMATHEMATICAL SCRIPT oJdK"]⟩, ⟨0x1d4a9, ["aMATHEMATICAL SCRIPT oNdOdPdQ"]⟩,
  ⟨0x1d4ae, ["aMATHEMATICAL SCRIPT oSdTdUdVdWdXdYdZcpAdBdCdD"]⟩,
  ⟨0x1d4bb, ["aMATHEMATICAL SCRIPT pF"]⟩, ⟨0x1d4bd, ["aMATHEMATICAL SCRIPT pHdIdJdKdLdMdN"]⟩,
  ⟨0x1d4c5,
   ["aMATHEMATICAL SCRIPT pPdQdRdSdTdUdVdWdXdYdZbBOLD SCRIPT oAeBeCeDeEeFeGeHeIeJeKeLeMeNeOePeQ",
    "eReSeTeUeVeWeXeYeZdpAeBeCeDeEeFeGeHeIeJeKeLeMeNeOePeQeReSeTeUeVeWeXeYeZbFRAKTUR oAdB"]⟩,
  ⟨0x1d507, ["aMATHEMATICAL FRAKTUR oDdEdFdG"]⟩,
  ⟨0x1d50d, ["aMATHEMATICAL FRAKTUR oJdKdLdMdNdOdPdQ"]⟩,
  ⟨0x1d516, ["aMATHEMATICAL FRAKTUR oSdTdUdVdWdXdY"]⟩,
  ⟨0x1d51e,
   ["aMATHEMATICAL FRAKTUR pAdBdCdDdEdFdGdHdIdJdKdLdMdNdOdPdQdRdSdTdUdVdWdXdYdZbDOUBLE-STRUCK oA",
    "eB"]⟩,
  ⟨0x1d53b, ["aMATHEMATICAL DOUBLE-STRUCK oDeEeFeG"]⟩,
  ⟨0x1d540, ["aMATHEMATICAL DOUBLE-STRUCK oIeJeKeLeM"]⟩,
  ⟨0x1d546, ["aMATHEMATICAL DOUBLE-STRUCK oO"]⟩,
  ⟨0x1d54a, ["aMATHEMATICAL DOUBLE-STRUCK oSeTeUeVeWeXeY"]⟩,
  ⟨0x1d552,
   ["aMATHEMATICAL DOUBLE-STRUCK pAeBeCeDeEeFeGeHeIeJeKeLeMeNeOePeQeReSeTeUeVeWeXeYeZ",
    "bBOLD FRAKTUR oAeBeCeDeEeFeGeHeIeJeKeLeMeNeOePeQeReSeTeUeVeWeXeYeZdpAeBeCeDeEeFeGeHeIeJeKeL",
    "eMeNeOePeQeReSeTeUeVeWeXeYeZbSANS-SERIF oAeBeCeDeEeFeGeHeIeJeKeLeMeNeOePeQeReSeTeUeVeWeXeY",
    "eZdpAeBeCeDeEeFeGeHeIeJeKeLeMeNeOePeQeReSeTeUeVeWeXeYeZdBOLD oAfBfCfDfEfFfGfHfIfJfKfLfMfNfO",
    "fPfQfRfSfTfUfVfWfXfYfZepAfBfCfDfEfFfGfHfIfJfKfLfMfNfOfPfQfRfSfTfUfVfWfXfYfZdITALIC oAfBfCfD",
    "fEfFfGfHfIfJfKfLfMfNfOfPfQfRfSfTfUfVfWfXfYfZepAfBfCfDfEfFfGfHfIfJfKfLfMfNfOfPfQfRfSfTfUfVfW",
    "fXfYfZdBOLD ITALIC oAgBgCgDgEgFgGgHgIgJgKgLgMgNgOgPgQgRgSgTgUgVgWgXgYgZfpAgBgCgDgEgFgGgHgI",
    "gJgKgLgMgNgOgPgQgRgSgTgUgVgWgXgYgZbMONOSPACE oAdBdCdDdEdFdGdHdIdJdKdLdMdNdOdPdQdRdSdTdUdVdW",
    "dXdYdZcpAdBdCdDdEdFdGdHdIdJdKdLdMdNdOdPdQdRdSdTdUdVdWdXdYdZbITALIC pDOTLESS IeJ"]⟩,
  ⟨0x1d6a8,
   ["aMATHEMATICAL BOLD oALPHAdBETAdGAMMAdDELTAdEPSILONdZETAdETAdTHETAdIOTAdKAPPAdLAMDAdMUdNUdXI",
    "dOMICRONdPIdRHOdTHETA SYMBOLdSIGMAdTAUdUPSILONdPHIdCHIdPSIdOMEGAcNABLAcpALPHAdBETAdGAMMA",
    "dDELTAdEPSILONdZETAdETAdTHETAdIOTAdKAPPAdLAMDAdMUdNUdXIdOMICRONdPIdRHOdFINAL SIGMAdSIGMA",
    "dTAUdUPSILONdPHIdCHIdPSIdOMEGAcPARTIAL DIFFERENTIALcEPSILON SYMBOLcTHETA SYMBOL",
    "cKAPPA SYMBOLcPHI SYMBOLcRHO SYMBOLcPI SYMBOLbITALIC oALPHAdBETAdGAMMAdDELTAdEPSILONdZETA",
    "dETAdTHETAdIOTAdKAPPAdLAMDAdMUdNUdXIdOMICRONdPIdRHOdTHETA SYMBOLdSIGMAdTAUdUPSILONdPHIdCHI",
    "dPSIdOMEGAcNABLAcpALPHAdBETAdGAMMAdDELTAdEPSILONdZETAdETAdTHETAdIOTAdKAPPAdLAMDAdMUdNUdXI",
    "dOMICRONdPIdRHOdFINAL SIGMAdSIGMAdTAUdUPSILONdPHIdCHIdPSIdOMEGAcPARTIAL DIFFERENTIAL",
    "cEPSILON SYMBOLcTHETA SYMBOLcKAPPA SYMBOLcPHI SYMBOLcRHO SYMBOLcPI SYMBOL",
    "bBOLD ITALIC oALPHAeBETAeGAMMAeDELTAeEPSILONeZETAeETAeTHETAeIOTAeKAPPAeLAMDAeMUeNUeXI",
    "eOMICRONePIeRHOeTHETA SYMBOLeSIGMAeTAUeUPSILONePHIeCHIePSIeOMEGAdNABLAdpALPHAeBETAeGAMMA",
    "eDELTAeEPSILONeZETAeETAeTHETAeIOTAeKAPPAeLAMDAeMUeNUeXIeOMICRONePIeRHOeFINAL SIGMAeSIGMA",
    "eTAUeUPSILONePHIeCHIePSIeOMEGAdPARTIAL DIFFERENTIALdEPSILON SYMBOLdTHETA SYMBOL",
    "dKAPPA SYMBOLdPHI SYMBOLdRHO SYMBOLdPI SYMBOLbSANS-SERIF BOLD oALPHAfBETAfGAMMAfDELTA",
    "fEPSILONfZETAfETAfTHETAfIOTAfKAPPAfLAMDAfMUfNUfXIfOMICRONfPIfRHOfTHETA SYMBOLfSIGMAfTAU",
    "fUPSILONfPHIfCHIfPSIfOMEGAeNABLAepALPHAfBETAfGAMMAfDELTAfEPSILONfZETAfETAfTHETAfIOTAfKAPPA",
    "fLAMDAfMUfNUfXIfOMICRONfPIfRHOfFINAL SIGMAfSIGMAfTAUfUPSILONfPHIfCHIfPSIfOMEGA",
    "ePARTIAL DIFFERENTIALeEPSILON SYMBOLeTHETA SYMBOLeKAPPA SYMBOLePHI SYMBOLeRHO SYMBOL",
    "ePI SYMBOLeITALIC oALPHAgBETAgGAMMAgDELTAgEPSILONgZETAgETAgTHETAgIOTAgKAPPAgLAMDAgMUgNUgXI",
    "gOMICRONgPIgRHOgTHETA SYMBOLgSIGMAgTAUgUPSILONgPHIgCHIgPSIgOMEGAfNABLAfpALPHAgBETAgGAMMA",
    "gDELTAgEPSILONgZETAgETAgTHETAgIOTAgKAPPAgLAMDAgMUgNUgXIgOMICRONgPIgRHOgFINAL SIGMAgSIGMA",
    "gTAUgUPSILONgPHIgCHIgPSIgOMEGAfPARTIAL DIFFERENTIALfEPSILON SYMBOLfTHETA SYMBOL",
    "fKAPPA SYMBOLfPHI SYMBOLfRHO SYMBOLfPI SYMBOLbBOLD oDIGAMMAcpDIGAMMA"]⟩,
  ⟨0x1d7ce,
   ["aMATHEMATICAL BOLD DIGIT ZEROdONEdTWOdTHREEdFOURdFIVEdSIXdSEVENdEIGHTdNINE",
    "bDOUBLE-STRUCK DIGIT ZEROeONEeTWOeTHREEeFOUReFIVEeSIXeSEVENeEIGHTeNINE",
    "bSANS-SERIF DIGIT ZEROeONEeTWOeTHREEeFOUReFIVEeSIXeSEVENeEIGHTeNINEdBOLD DIGIT ZEROfONEfTWO",
    "fTHREEfFOURfFIVEfSIXfSEVENfEIGHTfNINEbMONOSPACE DIGIT ZEROdONEdTWOdTHREEdFOURdFIVEdSIX",
    "dSEVENdEIGHTdNINEaSIGNWRITING HAND-FIST INDEXcCIRCLE INDEXcCUP INDEXcOVAL INDEXcHINGE INDEX",
    "cANGLE INDEXcFIST INDEX BENTcCIRCLE INDEX BENTcFIST THUMB UNDER INDEX BENT",
    "dINDEX RAISED KNUCKLEeCUPPEDeHINGEDeHINGED LOWcCIRCLE INDEX HINGEcFIST INDEX MIDDLE",
    "cCIRCLE INDEX MIDDLEcFIST INDEX MIDDLE BENTfRAISED KNUCKLESfHINGEDeUP MIDDLE HINGED",
    "eHINGED MIDDLE UPeMIDDLE CONJOINEDfCONJOINED INDEX BENTgMIDDLE BENTgCUPPEDgHINGEDfCROSSED",
    "cCIRCLE INDEX MIDDLE CROSSEDcFIST MIDDLE BENT OVER INDEXdINDEX BENT OVER MIDDLE",
    "eMIDDLE THUMBcCIRCLE INDEX MIDDLE THUMBcFIST INDEX MIDDLE STRAIGHT THUMB BENT",
    "fBENT THUMB STRAIGHTfTHUMB BENTfHINGED SPREAD THUMB SIDEeUP MIDDLE HINGED THUMB SIDE",
    "iCONJOINEDeHINGED MIDDLE UP THUMB SIDEeMIDDLE UP SPREAD THUMB FORWARDfTHUMB CUPPEDgCIRCLED",
    "gHOOKEDgHINGEDdTHUMB BETWEEN INDEX MIDDLE STRAIGHTdINDEX MIDDLE CONJOINED THUMB SIDE",
    "hSIDE CONJOINEDiBENTdMIDDLE THUMB HOOKED INDEX UPdINDEX THUMB HOOKED MIDDLE UP",
    "eMIDDLE CONJOINED HINGED THUMB SIDEfCROSSED THUMB SIDEfCONJOINED THUMB FORWARD",
    "gCUPPED THUMB FORWARDdMIDDLE THUMB CUPPED INDEX UPdINDEX THUMB CUPPED MIDDLE UP",
    "dMIDDLE THUMB CIRCLED INDEX UPhHINGEDdINDEX THUMB ANGLED OUT MIDDLE UPgIN MIDDLE UP",
    "fCIRCLED MIDDLE UPeMIDDLE THUMB CONJOINED HINGEDgANGLED OUTgANGLED",
    "dMIDDLE THUMB ANGLED OUT INDEX UPiCROSSEDgINDEX UPdINDEX THUMB HOOKED MIDDLE HINGED",
    "cFLAT FOUR FINGERSeFINGERS BENTfHINGEDfCONJOINEDfCONJOINED SPLIT",
    "cCLAW FOUR FINGERS CONJOINEDcFIST FOUR FINGERS CONJOINED BENTcHINGE FOUR FINGERS CONJOINED",
    "cFLAT FIVE FINGERS SPREADdHEEL FIVE FINGERS SPREADdFIVE FINGERS SPREAD FOUR BENT",
    "dHEEL FIVE FINGERS SPREAD FOUR BENTdFIVE FINGERS SPREAD BENTdHEEL FIVE FINGERS SPREAD BENT",
    "dFIVE FINGERS SPREAD THUMB FORWARDcCUP FIVE FINGERS SPREADfSPREAD OPEN",
    "cHINGE FIVE FINGERS SPREAD OPENcOVAL FIVE FINGERS SPREADcFLAT FIVE FINGERS SPREAD HINGED",
    "gHINGED THUMB SIDEhNO THUMBcFLATcFLAT BETWEEN PALM FACINGSdHEELdTHUMB SIDEdHEEL THUMB SIDE",
    "dTHUMB BENTeFORWARDdSPLIT INDEX THUMB SIDEeCENTREeCENTRE THUMB SIDEgSIDE BENTeLITTLEcCLAW",
    "cCLAW THUMB SIDEdNO THUMBdTHUMB FORWARDcHOOK CURLICUEcHOOKcCUP OPENcCUPcCUP OPEN THUMB SIDE",
    "dTHUMB SIDEdOPEN NO THUMBdNO THUMBdOPEN THUMB FORWARDdTHUMB FORWARDcCURLICUE OPENcCURLICUE",
    "cCIRCLEcOVALcOVAL THUMB SIDEdNO THUMBdTHUMB FORWARDcHINGE OPENdOPEN THUMB FORWARDcHINGE",
    "cHINGE SMALLdOPEN THUMB SIDEdTHUMB SIDEdOPEN NO THUMBdNO THUMBdTHUMB SIDE TOUCHING INDEX",
    "eBETWEEN MIDDLE RINGcANGLEcFIST INDEX MIDDLE RINGcCIRCLE INDEX MIDDLE RING",
    "cHINGE INDEX MIDDLE RINGcANGLE INDEX MIDDLE RINGcHINGE LITTLEcFIST INDEX MIDDLE RING BENT",
    "gCONJOINEDcHINGE INDEX MIDDLE RING CONJOINEDcFIST LITTLE DOWNeDOWN RIPPLE STRAIGHTgCURVED",
    "fOTHERS CIRCLEDeUPdTHUMB UNDER LITTLE UPcCIRCLE LITTLE UPcOVAL LITTLE UPcANGLE LITTLE UP",
    "cFIST LITTLE RAISED KNUCKLEeBENTeTOUCHES THUMBeTHUMBcHINGE LITTLE THUMB",
    "cFIST LITTLE INDEX THUMBcHINGE LITTLE INDEX THUMBcANGLE LITTLE INDEX THUMB INDEX THUMB OUT",
    "hTHUMBcFIST LITTLE INDEXcCIRCLE LITTLE INDEXcHINGE LITTLE INDEXcANGLE LITTLE INDEX",
    "cFIST INDEX MIDDLE LITTLEcCIRCLE INDEX MIDDLE LITTLEcHINGE INDEX MIDDLE LITTLEdRING",
    "cANGLE INDEX MIDDLE LITTLEcFIST INDEX MIDDLE CROSS LITTLEcCIRCLE INDEX MIDDLE CROSS LITTLE",
    "cFIST RING DOWNcHINGE RING DOWN INDEX THUMB HOOK MIDDLE",
    "cANGLE RING DOWN MIDDLE THUMB INDEX CROSScFIST RING UPeRAISED KNUCKLEeLITTLE",
    "cCIRCLE RING LITTLEcOVAL RING LITTLEcANGLE RING LITTLEcFIST RING MIDDLEeMIDDLE CONJOINED",
    "fRAISED KNUCKLESeINDEXeTHUMBcHOOK RING THUMBcFIST INDEX RING LITTLE",
    "cCIRCLE INDEX RING LITTLEcCURLICUE INDEX RING LITTLE ONcHOOK INDEX RING LITTLE OUTgINgUNDER",
    "cCUP INDEX RING LITTLEcHINGE INDEX RING LITTLEcANGLE INDEX RING LITTLE OUTfLITTLE",
    "cFIST MIDDLE DOWNcHINGE MIDDLEcFIST MIDDLE UPcCIRCLE MIDDLE UPcFIST MIDDLE RAISED KNUCKLE",
    "eUP THUMB SIDEcHOOK MIDDLE THUMBcFIST MIDDLE THUMB LITTLEeLITTLEeRING LITTLE",
    "cCIRCLE MIDDLE RING LITTLEcCURLICUE MIDDLE RING LITTLE ONcCUP MIDDLE RING LITTLE",
    "cHINGE MIDDLE RING LITTLEcANGLE MIDDLE RING LITTLE OUTgINfLITTLE",
    "cCIRCLE MIDDLE RING LITTLE BENTcCLAW MIDDLE RING LITTLE CONJOINEDgCONJOINED SIDE",
    "cHOOK MIDDLE RING LITTLE CONJOINED OUThINgCONJOINEDcHINGE INDEX HINGED",
    "cFIST INDEX THUMB SIDEcHINGE INDEX THUMB SIDEcFIST INDEX THUMB SIDE THUMB DIAGONAL",
    "hCONJOINEDhBENTgINDEX BENTgBOTH BENTgINDEX HINGEfFORWARD INDEX STRAIGHThBENTfHOOKfCURLICUE",
    "fCURVE THUMB INSIDEcCLAW INDEX THUMB CURVE THUMB INSIDEcFIST INDEX THUMB CURVE THUMB UNDER",
    "fCIRCLEcCUP INDEX THUMBeTHUMB OPENcHINGE INDEX THUMB OPENfLARGEeTHUMBeTHUMB SMALL",
    "cANGLE INDEX THUMB OUTfINeTHUMBcFIST THUMBdTHUMB HEELeSIDE DIAGONALfCONJOINEDfBENTeFORWARD",
    "eBETWEEN INDEX MIDDLEfMIDDLE RINGfRING LITTLEeUNDER TWO FINGERSeOVER TWO FINGERS",
    "eUNDER THREE FINGERSfFOUR FINGERSeOVER FOUR RAISED KNUCKLEScFISTcFIST HEELbTOUCH SINGLE",
    "cMULTIPLEcBETWEENbGRASP SINGLEcMULTIPLEcBETWEENbSTRIKE SINGLEcMULTIPLEcBETWEENbBRUSH SINGLE",
    "cMULTIPLEcBETWEENbRUB SINGLEcMULTIPLEcBETWEENbSURFACE SYMBOLScBETWEENbSQUEEZE LARGE SINGLE",
    "cpSINGLEcLARGE MULTIPLEcpMULTIPLEcSEQUENTIALbFLICK LARGE SINGLEcpSINGLEcLARGE MULTIPLE",
    "cpMULTIPLEcSEQUENTIALbSQUEEZE FLICK ALTERNATINGbMOVEMENT-HINGE UP DOWN LARGEfSMALL",
    "eSEQUENTIALdDOWN SEQUENTIALdUP DOWN ALTERNATING LARGEgSMALLdSIDE TO SIDE SCISSORS",
    "cWALLPLANE FINGER CONTACTcFLOORPLANE FINGER CONTACTcWALLPLANE SINGLE STRAIGHT SMALLfMEDIUM",
    "fLARGEfLARGESTeWRIST FLEXdwSTRAIGHTeWRIST FLEXeALTERNATINGeALTERNATING WRIST FLEXdCROSS",
    "dTRIPLE STRAIGHT MOVEMENTeWRIST FLEXeALTERNATINGeALTERNATING WRIST FLEXdBEND SMALLeMEDIUM",
    "eLARGEdCORNER SMALLeMEDIUMeLARGEeROTATIONdCHECK SMALLeMEDIUMeLARGEdBOX SMALLeMEDIUMeLARGE",
    "dZIGZAG SMALLeMEDIUMeLARGEdPEAKS SMALLeMEDIUMeLARGE",
    "bTRAVEL-WALLPLANE ROTATION-WALLPLANE SINGLEfDOUBLEfALTERNATINGeFLOORPLANE SINGLEfDOUBLE",
    "fALTERNATINGdSHAKINGdARM SPIRAL SINGLEfDOUBLEfTRIPLEbMOVEMENT-DIAGONAL AWAY SMALLeMEDIUM",
    "eLARGEeLARGESTdTOWARDS SMALLeMEDIUMeLARGEeLARGESTdBETWEEN AWAY SMALLfMEDIUMfLARGEfLARGEST",
    "eTOWARDS SMALLfMEDIUMfLARGEfLARGESTcFLOORPLANE SINGLE STRAIGHT SMALLfMEDIUMfLARGEfLARGEST",
    "eWRIST FLEXdwSTRAIGHTeWRIST FLEXeALTERNATINGeALTERNATING WRIST FLEXdCROSS",
    "dTRIPLE STRAIGHT MOVEMENTeWRIST FLEXeALTERNATING MOVEMENTfWRIST FLEXdBENDdCORNER SMALL",
    "eMEDIUMeLARGEdCHECKdBOX SMALLeMEDIUMeLARGEdZIGZAG SMALLeMEDIUMeLARGEdPEAKS SMALLeMEDIUM",
    "eLARGEbTRAVEL-FLOORPLANE ROTATION-FLOORPLANE SINGLEfDOUBLEfALTERNATINGeWALLPLANE SINGLE",
    "fDOUBLEfALTERNATINGdSHAKINGbMOVEMENT-WALLPLANE CURVE QUARTER SMALLfMEDIUMfLARGEfLARGEST",
    "eHALF-CIRCLE SMALLgMEDIUMgLARGEgLARGESTeTHREE-QUARTER CIRCLE SMALLhMEDIUMdHUMP SMALLeMEDIUM",
    "eLARGEdLOOP SMALLeMEDIUMeLARGEepDOUBLEdWAVE CURVE wSMALLgMEDIUMgLARGEfTRIPLE SMALLgMEDIUM",
    "gLARGEdCURVE THEN STRAIGHTdCURVED CROSS SMALLfMEDIUMbROTATION-WALLPLANE SINGLEdDOUBLE",
    "dALTERNATEbMOVEMENT-WALLPLANE SHAKINGdCURVE HITTING FRONT WALLdHUMP HITTING FRONT WALL",
    "dLOOP HITTING FRONT WALLdWAVE HITTING FRONT WALL",
    "bROTATION-WALLPLANE SINGLE HITTING FRONT WALLdwHITTING FRONT WALL",
    "dALTERNATING HITTING FRONT WALLbMOVEMENT-WALLPLANE CURVE HITTING CHESTdHUMP HITTING CHEST",
    "dLOOP HITTING CHESTdWAVE HITTING CHESTbROTATION-WALLPLANE SINGLE HITTING CHEST",
    "dwHITTING CHESTdALTERNATING HITTING CHESTbMOVEMENT-WALLPLANE WAVE DIAGONAL PATH SMALL",
    "gMEDIUMgLARGEcFLOORPLANE CURVE HITTING CEILING SMALLgLARGEdHUMP HITTING CEILING pDOUBLE",
    "gLARGE DOUBLEgpTRIPLEgLARGE TRIPLEdLOOP HITTING CEILING pSINGLEgLARGE SINGLEgpDOUBLE",
    "gLARGE DOUBLEdWAVE HITTING CEILING SMALLgLARGEbROTATION-FLOORPLANE SINGLE HITTING CEILING",
    "dwHITTING CEILINGdALTERNATING HITTING CEILINGbMOVEMENT-FLOORPLANE CURVE HITTING FLOOR SMALL",
    "gLARGEdHUMP HITTING FLOOR pDOUBLEgLARGE DOUBLEgTRIPLE pTRIPLEhLARGE TRIPLE",
    "dLOOP HITTING FLOOR pSINGLEgLARGE SINGLEgpDOUBLEgLARGE DOUBLEdWAVE HITTING FLOOR SMALL",
    "gLARGEbROTATION-FLOORPLANE SINGLE HITTING FLOORdwHITTING FLOORdALTERNATING HITTING FLOOR",
    "bMOVEMENT-FLOORPLANE CURVE SMALLeMEDIUMeLARGEeLARGESTeCOMBINEDdHUMP SMALLdLOOP SMALL",
    "dWAVE SNAKEeSMALLeLARGEbROTATION-FLOORPLANE SINGLEdDOUBLEdALTERNATING",
    "bMOVEMENT-FLOORPLANE SHAKING PARALLELcWALLPLANE ARM CIRCLE pSINGLEfMEDIUM SINGLEfpDOUBLE",
    "fMEDIUM DOUBLEcFLOORPLANE ARM CIRCLE HITTING WALL pSINGLEhMEDIUM SINGLEhLARGE SINGLE",
    "hpDOUBLEhMEDIUM DOUBLEhLARGE DOUBLEcWALLPLANE WRIST CIRCLE FRONT SINGLEgDOUBLE",
    "cFLOORPLANE WRIST CIRCLE HITTING WALL SINGLEhDOUBLEcWALLPLANE FINGER CIRCLES SINGLEfDOUBLE",
    "cFLOORPLANE FINGER CIRCLES HITTING WALL SINGLEhDOUBLEbDYNAMIC ARROWHEAD SMALLdLARGEcFAST",
    "cSLOWcTENSEcRELAXEDcSIMULTANEOUScSIMULTANEOUS ALTERNATINGcEVERY OTHER TIMEcGRADUALbHEAD",
    "bHEAD RIMcMOVEMENT-WALLPLANE STRAIGHTeTILTdFLOORPLANE STRAIGHTdWALLPLANE CURVE",
    "dFLOORPLANE CURVEcMOVEMENT CIRCLEbFACE DIRECTION POSITION NOSE FORWARD TILTINGfUP OR DOWN",
    "hDOWN TILTINGbEYEBROWS STRAIGHT UPdNEUTRALdDOWNbDREAMY EYEBROWS NEUTRAL DOWNdDOWN NEUTRAL",
    "dUP NEUTRALdNEUTRAL UPbFOREHEAD NEUTRALcCONTACTcWRINKLEDbEYES OPENcSQUEEZEDcCLOSED",
    "bEYE BLINK SINGLEdMULTIPLEbEYES HALF OPENcWIDE OPENcHALF CLOSEDcWIDENING MOVEMENTbEYE WINK",
    "bEYELASHES UPcDOWNcFLUTTERINGbEYEGAZE-WALLPLANE STRAIGHTdSTRAIGHT DOUBLEeALTERNATING",
    "cFLOORPLANE STRAIGHTdSTRAIGHT DOUBLEeALTERNATINGcWALLPLANE CURVEDcFLOORPLANE CURVED",
    "cWALLPLANE CIRCLINGbCHEEKS PUFFEDcNEUTRALcSUCKEDbTENSE CHEEKS HIGHdMIDDLEdLOWbEARS",
    "bNOSE NEUTRALcCONTACTcWRINKLEScWIGGLESbAIR BLOWING OUTcSUCKING INcBLOW pROTATIONS",
    "cSUCK pROTATIONSbBREATH INHALEcEXHALEbMOUTH CLOSED NEUTRALdFORWARDdCONTACTcSMILE",
    "cSMILE WRINKLEDdOPENcFROWNcFROWN WRINKLEDdOPENcOPEN CIRCLEdFORWARDdWRINKLEDdOVAL",
    "dOVAL WRINKLEDeYAWNdRECTANGLEdRECTANGLE WRINKLEDeYAWNcKISScKISS FORWARDdWRINKLEDcTENSE",
    "cTENSE FORWARDdSUCKEDbLIPS PRESSED TOGETHERbLIP LOWER OVER UPPERcUPPER OVER LOWER",
    "bMOUTH CORNERScWRINKLES SINGLEdDOUBLEbTONGUE STICKING OUT FARcLICKING LIPScTIP BETWEEN LIPS",
    "dTOUCHING INSIDE MOUTHcINSIDE MOUTH RELAXEDcMOVES AGAINST CHEEKcCENTRE STICKING OUT",
    "dINSIDE MOUTHbTEETHbTEETH MOVEMENTcON TONGUEdTONGUE MOVEMENTdLIPSdLIPS MOVEMENTcBITE LIPS",
    "bMOVEMENT-WALLPLANE JAWcFLOORPLANE JAWbNECKbHAIRbEXCITEMENTbSHOULDER HIP SPINEdPOSITIONS",
    "bWALLPLANE SHOULDER HIP MOVEbFLOORPLANE SHOULDER HIP MOVEbSHOULDER TILTING FROM WAIST",
    "bTORSO-WALLPLANE STRAIGHT STRETCHdCURVED BENDcFLOORPLANE TWISTING",
    "bUPPER BODY TILTING FROM HIP JOINTSbLIMB COMBINATIONcLENGTH-1d2d3d4d5d6d7bFINGER",
    "bLOCATION-WALLPLANE SPACEcFLOORPLANE SPACEbLOCATION HEIGHTcWIDTHcDEPTHcHEAD NECKcTORSO",
    "cLIMBS DIGITSbCOMMAbFULL STOPbSEMICOLONbCOLONbPARENTHESIS"]⟩,
  ⟨0x1da9b, ["aSIGNWRITING FILL MODIFIER-2d3d4d5d6"]⟩,
  ⟨0x1daa1, ["aSIGNWRITING ROTATION MODIFIER-2d3d4d5d6d7d8d9d10d11d12d13d14d15d16"]⟩,
  ⟨0x1df00,
   ["aLATIN pmFENG DIGRAPH nTRILLdREVERSED SCRIPT GbmpoTURNED GbpmREVERSED KbmpoL nBELT",
    "bpmLEZH nRETROFLEX HOOKdTURNED Y nBELTdREVERSED ENGdTURNED R nLONG LEG tRETROFLEX HOOK",
    "dT nHOOK tRETROFLEX HOOKbmRETROFLEX CLICK nRETROFLEX HOOKbpmESH nwBARgBAR tCURL",
    "dTURNED T nCURLbmINVERTED GLOTTAL STOP nCURLcSTRETCHED C nCURLcpoTURNED KbpmL nFISHHOOK",
    "dDEZH DIGRAPH nPALATAL HOOKdL nBELT tPALATAL HOOKdENG nPALATAL HOOKdTURNED R nPALATAL HOOK",
    "dR nFISHHOOK tPALATAL HOOKdTESH DIGRAPH nPALATAL HOOKdEZH nPALATAL HOOK",
    "dDEZH DIGRAPH nRETROFLEX HOOKdI nSTROKE tRETROFLEX HOOKdO nRETROFLEX HOOK",
    "dTESH DIGRAPH nRETROFLEX HOOKdC nRETROFLEX HOOKdS nCURL"]⟩,
  ⟨0x1e000, ["aCOMBINING GLAGOLITIC mAZUdBUKYdVEDEdGLAGOLIdDOBROdYESTUdZHIVETE"]⟩,
  ⟨0x1e008,
   ["aCOMBINING GLAGOLITIC mZEMLJAdIZHEdINITIAL IZHEdIdDJERVIdKAKOdLJUDIJEdMYSLITEdNASHIdONU",
    "dPOKOJIdRITSIdSLOVOdTVRIDOdUKUdFRITUdHERU"]⟩,
  ⟨0x1e01b, ["aCOMBINING GLAGOLITIC mSHTAdTSIdCHRIVIdSHAdYERUdYERIdYATI"]⟩,
  ⟨0x1e023, ["aCOMBINING GLAGOLITIC mYUdpYUS"]⟩,
  ⟨0x1e026, ["aCOMBINING GLAGOLITIC mYOdIOTATED pYUSdBIG YUSdIOTATED BIG YUSdFITA"]⟩,
  ⟨0x1e100,
   ["aNYIAKENG PUACHUE HMONG mMAeTSAeNTAeTAeHAeNAeXAeNKAeCAeLAeSAeZAeNCAeNTSAeKAeDAeNYAeNRAeVA",
    "eNTXAeTXAeFAeRAeQAeYAeNQAePAeXYAeNPAeDLAeNPLAeHAHeMLAePLAeGAeRRAeAeAAeIeUeOeOOeEeEEeW"]⟩,
  ⟨0x1e130,
   ["aNYIAKENG PUACHUE HMONG TONE-BeMeJeVeSeGeDdyFOR PERSONfTHINGfLOCATIONfANIMALfINVERTEBRATE",
    "eXW XWdSYLLABLE LENGTHENER"]⟩,
  ⟨0x1e140, ["aNYIAKENG PUACHUE HMONG DIGIT ZEROeONEeTWOeTHREEeFOUReFIVEeSIXeSEVENeEIGHTeNINE"]⟩,
  ⟨0x1e14e, ["aNYIAKENG PUACHUE HMONG LOGOGRAM NYAJdCIRCLED CA"]⟩,
  ⟨0x1e290,
   ["aTOTO mPAcBAcTAcDAcKAcGAcMAcNAcNGAcSAcCHAcYAcWAcJAcHAcRAcLAcIcBREATHY IcIUcBREATHY IUcUcE",
    "cBREATHY EcEOcBREATHY EOcOcAEcBREATHY AEcAbyRISING TONE"]⟩,
  ⟨0x1e2c0,
   ["aWANCHO mAAcAcBAcCAcDAcGAcYAcPHAcLAcNAcPAcTAcTHAcFAcSAcSHAcJAcZAcWAcVAcKAcOcAUcRAcMAcKHAcHA",
    "cEcIcNGAcUcLLHAcTSAcTRAcONGcAANGcANGcINGcONcENcAANcNYAcUENcYIHbTONE TUPcTUPNIcKOIcKOINI",
    "bDIGIT ZEROcONEcTWOcTHREEcFOURcFIVEcSIXcSEVENcEIGHTcNINE"]⟩,
  ⟨0x1e2ff, ["aWANCHO NGUN SIGN"]⟩,
  ⟨0x1e7e0, ["aETHIOPIC SYLLABLE HHYAcHHYUcHHYIcHHYAAcHHYEEcHHYEcHHYO"]⟩,
  ⟨0x1e7e8, ["aETHIOPIC SYLLABLE GURAGE HHWAcHHWIcHHWEEcHHWE"]⟩,
  ⟨0x1e7ed, ["aETHIOPIC SYLLABLE GURAGE MWIdMWEE"]⟩,
  ⟨0x1e7f0,
   ["aETHIOPIC SYLLABLE GURAGE QWIdQWEEdQWEdBWIdBWEEdKWIdKWEEdKWEdGWIdGWEEdGWEdFWIdFWEEdPWIdPWEE"]⟩,
  ⟨0x1e800,
   ["aMENDE KIKAKUI SYLLABLE M001 KIdM002 KAdM003 KUdM065 KEEdM095 KEdM076 KOOdM048 KOdM179 KUA",
    "dM004 WIdM005 WAdM006 WUdM126 WEEdM118 WEdM114 WOOdM045 WOdM194 WUIdM143 WEIdM061 WVI",
    "dM049 WVAdM139 WVEdM007 MINdM008 MANdM009 MUNdM059 MENdM094 MONdM154 MUANdM189 MUENdM010 BI",
    "dM011 BAdM012 BUdM150 BEEdM097 BEdM103 BOOdM138 BOdM013 IdM014 AdM015 UdM163 EEdM100 E",
    "dM165 OOdM147 OdM137 EIdM131 INdM135 INdM195 ANdM178 ENdM019 SIdM020 SAdM021 SUdM162 SEE",
    "dM116 SEdM136 SOOdM079 SOdM196 SIAdM025 LIdM026 LAdM027 LUdM084 LEEdM073 LEdM054 LOO",
    "dM153 LOdM110 LONG LEdM016 DIdM017 DAdM018 DUdM089 DEEdM180 DOOdM181 DOdM022 TIdM023 TA",
    "dM024 TUdM091 TEEdM055 TEdM104 TOOdM069 TOdM028 JIdM029 JAdM030 JUdM157 JEEdM113 JE",
    "dM160 JOOdM063 JOdM175 LONG JOdM031 YIdM032 YAdM033 YUdM109 YEEdM080 YEdM141 YOOdM121 YO",
    "dM034 FIdM035 FAdM036 FUdM078 FEEdM075 FEdM133 FOOdM088 FOdM197 FUAdM101 FANdM037 NIN",
    "dM038 NANdM039 NUNdM117 NENdM169 NONdM176 HIdM041 HAdM186 HUdM040 HEEdM096 HEdM042 HOO",
    "dM140 HOdM083 HEEIdM128 HOOUdM053 HINdM130 HANdM087 HUNdM052 HENdM193 HONdM046 HUAN",
    "dM090 NGGIdM043 NGGAdM082 NGGUdM115 NGGEEdM146 NGGEdM156 NGGOOdM120 NGGOdM159 NGGAA",
    "dM127 NGGUAdM086 LONG NGGEdM106 LONG NGGOOdM183 LONG NGGOdM155 GIdM111 GAdM168 GUdM190 GEE",
    "dM166 GUEIdM167 GUANdM184 NGENdM057 NGONdM177 NGUANdM068 PIdM099 PAdM050 PUdM081 PEE",
    "dM051 PEdM102 POOdM066 POdM145 MBIdM062 MBAdM122 MBUdM047 MBEEdM188 MBEEdM072 MBEdM172 MBOO",
    "dM174 MBOdM187 MBUUdM161 LONG MBEdM105 LONG MBOOdM142 LONG MBOdM132 KPIdM092 KPAdM074 KPU",
    "dM044 KPEEdM108 KPEdM112 KPOOdM158 KPOdM124 GBIdM056 GBAdM148 GBUdM093 GBEEdM107 GBE",
    "dM071 GBOOdM070 GBOdM171 RAdM123 NDIdM129 NDAdM125 NDUdM191 NDEEdM119 NDEdM067 NDOO",
    "dM064 NDOdM152 NJAdM192 NJUdM149 NJEEdM134 NJOOdM182 VIdM185 VAdM151 VUdM173 VEEdM085 VE",
    "dM144 VOOdM077 VOdM164 NYINdM058 NYANdM170 NYUNdM098 NYENdM060 NYON"]⟩,
  ⟨0x1e8c7,
   ["aMENDE KIKAKUI DIGIT ONEdTWOdTHREEdFOURdFIVEdSIXdSEVENdEIGHTdNINEcCOMBINING NUMBER TEENS",
    "eTENSeHUNDREDSeTHOUSANDSeTEN THOUSANDSeHUNDRED THOUSANDSeMILLIONS"]⟩,
  ⟨0x1e900,
   ["aADLAM omALIFdDAALIdLAAMdMIIMdBAdSINNYIIYHEdPEdBHEdRAdEdFAdIdOdDHAdYHEdWAWdNUNdKAFdYAdU",
    "dJIIMdCHIdHAdQAAFdGAdNYAdTUdNHAdVAdKHAdGBEdZALdKPOdSHAbpmALIFdDAALIdLAAMdMIIMdBAdSINNYIIYHE",
    "dPEdBHEdRAdEdFAdIdOdDHAdYHEdWAWdNUNdKAFdYAdUdJIIMdCHIdHAdQAAFdGAdNYAdTUdNHAdVAdKHAdGBEdZAL",
    "dKPOdSHAbALIF LENGTHENERbVOWEL LENGTHENERbGEMINATION MARKbHAMZAbCONSONANT MODIFIER",
    "bGEMINATE CONSONANT MODIFIERbNUKTAbNASALIZATION MARK"]⟩,
  ⟨0x1e950, ["aADLAM DIGIT ZEROcONEcTWOcTHREEcFOURcFIVEcSIXcSEVENcEIGHTcNINE"]⟩,
  ⟨0x1e95e, ["aADLAM INITIAL EXCLAMATION MARKcQUESTION MARK"]⟩,
  ⟨0x1ec71,
   ["aINDIC SIYAQ NUMBER ONEdTWOdTHREEdFOURdFIVEdSIXdSEVENdEIGHTdNINEdTENdTWENTYdTHIRTYdFORTY",
    "dFIFTYdSIXTYdSEVENTYdEIGHTYdNINETYdONE HUNDREDdTWO HUNDREDdTHREE HUNDREDdFOUR HUNDRED",
    "dFIVE HUNDREDdSIX HUNDREDdSEVEN HUNDREDdEIGHT HUNDREDdNINE HUNDREDdONE THOUSAND",
    "dTWO THOUSANDdTHREE THOUSANDdFOUR THOUSANDdFIVE THOUSANDdSIX THOUSANDdSEVEN THOUSAND",
    "dEIGHT THOUSANDdNINE THOUSANDdTEN THOUSANDdTWENTY THOUSANDdTHIRTY THOUSANDdFORTY THOUSAND",
    "dFIFTY THOUSANDdSIXTY THOUSANDdSEVENTY THOUSANDdEIGHTY THOUSANDdNINETY THOUSANDdLAKHdLAKHAN",
    "cLAKH MARKcNUMBER KARORdKARORANdPREFIXED ONEeTWOeTHREEeFOUReFIVEeSIXeSEVENeEIGHTeNINE",
    "cPLACEHOLDERcFRACTION ONE QUARTEReHALFdTHREE QUARTERScRUPEE MARKcNUMBER ALTERNATE ONEeTWO",
    "eTEN THOUSANDcALTERNATE LAKH MARK"]⟩,
  ⟨0x1ed01,
   ["aOTTOMAN SIYAQ NUMBER ONEdTWOdTHREEdFOURdFIVEdSIXdSEVENdEIGHTdNINEdTENdTWENTYdTHIRTYdFORTY",
    "dFIFTYdSIXTYdSEVENTYdEIGHTYdNINETYdONE HUNDREDdTWO HUNDREDdTHREE HUNDREDdFOUR HUNDRED",
    "dFIVE HUNDREDdSIX HUNDREDdSEVEN HUNDREDdEIGHT HUNDREDdNINE HUNDREDdONE THOUSAND",
    "dTWO THOUSANDdTHREE THOUSANDdFOUR THOUSANDdFIVE THOUSANDdSIX THOUSANDdSEVEN THOUSAND",
    "dEIGHT THOUSANDdNINE THOUSANDdTEN THOUSANDdTWENTY THOUSANDdTHIRTY THOUSANDdFORTY THOUSAND",
    "dFIFTY THOUSANDdSIXTY THOUSANDdSEVENTY THOUSANDdEIGHTY THOUSANDdNINETY THOUSANDcMARRATAN",
    "cALTERNATE NUMBER TWOeTHREEeFOUReFIVEeSIXeSEVENeEIGHTeNINEeTENeFOUR HUNDREDeSIX HUNDRED",
    "eTWO THOUSANDeTEN THOUSANDcFRACTION ONE HALFeSIXTH"]⟩,
  ⟨0x1ee00, ["aARABIC MATHEMATICAL ALEFcBEHcJEEMcDAL"]⟩,
  ⟨0x1ee05,
   ["aARABIC MATHEMATICAL WAWcZAINcHAHcTAHcYEHcKAFcLAMcMEEMcNOONcSEENcAINcFEHcSADcQAFcREHcSHEEN",
    "cTEHcTHEHcKHAHcTHALcDADcZAHcGHAINcDOTLESS BEHdNOONdFEHdQAF"]⟩,
  ⟨0x1ee21, ["aARABIC MATHEMATICAL INITIAL BEHdJEEM"]⟩,
  ⟨0x1ee24, ["aARABIC MATHEMATICAL INITIAL HEH"]⟩, ⟨0x1ee27, ["aARABIC MATHEMATICAL INITIAL HAH"]⟩,
  ⟨0x1ee29, ["aARABIC MATHEMATICAL INITIAL YEHdKAFdLAMdMEEMdNOONdSEENdAINdFEHdSADdQAF"]⟩,
  ⟨0x1ee34, ["aARABIC MATHEMATICAL INITIAL SHEENdTEHdTHEHdKHAH"]⟩,
  ⟨0x1ee39, ["aARABIC MATHEMATICAL INITIAL DAD"]⟩,
  ⟨0x1ee3b, ["aARABIC MATHEMATICAL INITIAL GHAIN"]⟩,
  ⟨0x1ee42, ["aARABIC MATHEMATICAL TAILED JEEM"]⟩, ⟨0x1ee47, ["aARABIC MATHEMATICAL TAILED HAH"]⟩,
  ⟨0x1ee49, ["aARABIC MATHEMATICAL TAILED YEH"]⟩, ⟨0x1ee4b, ["aARABIC MATHEMATICAL TAILED LAM"]⟩,
  ⟨0x1ee4d, ["aARABIC MATHEMATICAL TAILED NOONdSEENdAIN"]⟩,
  ⟨0x1ee51, ["aARABIC MATHEMATICAL TAILED SADdQAF"]⟩,
  ⟨0x1ee54, ["aARABIC MATHEMATICAL TAILED SHEEN"]⟩, ⟨0x1ee57, ["aARABIC MATHEMATICAL TAILED KHAH"]⟩,
  ⟨0x1ee59, ["aARABIC MATHEMATICAL TAILED DAD"]⟩, ⟨0x1ee5b, ["aARABIC MATHEMATICAL TAILED GHAIN"]⟩,
  ⟨0x1ee5d, ["aARABIC MATHEMATICAL TAILED DOTLESS NOON"]⟩,
  ⟨0x1ee5f, ["aARABIC MATHEMATICAL TAILED DOTLESS QAF"]⟩,
  ⟨0x1ee61, ["aARABIC MATHEMATICAL STRETCHED BEHdJEEM"]⟩,
  ⟨0x1ee64, ["aARABIC MATHEMATICAL STRETCHED HEH"]⟩,
  ⟨0x1ee67, ["aARABIC MATHEMATICAL STRETCHED HAHdTAHdYEHdKAF"]⟩,
  ⟨0x1ee6c, ["aARABIC MATHEMATICAL STRETCHED MEEMdNOONdSEENdAINdFEHdSADdQAF"]⟩,
  ⟨0x1ee74, ["aARABIC MATHEMATICAL STRETCHED SHEENdTEHdTHEHdKHAH"]⟩,
  ⟨0x1ee79, ["aARABIC MATHEMATICAL STRETCHED DADdZAHdGHAINdDOTLESS BEH"]⟩,
  ⟨0x1ee7e, ["aARABIC MATHEMATICAL STRETCHED DOTLESS FEH"]⟩,
  ⟨0x1ee80, ["aARABIC MATHEMATICAL LOOPED ALEFdBEHdJEEMdDALdHEHdWAWdZAINdHAHdTAHdYEH"]⟩,
  ⟨0x1ee8b,
   ["aARABIC MATHEMATICAL LOOPED LAMdMEEMdNOONdSEENdAINdFEHdSADdQAFdREHdSHEENdTEHdTHEHdKHAHdTHAL",
    "dDADdZAHdGHAIN"]⟩,
  ⟨0x1eea1, ["aARABIC MATHEMATICAL DOUBLE-STRUCK BEHeJEEMeDAL"]⟩,
  ⟨0x1eea5, ["aARABIC MATHEMATICAL DOUBLE-STRUCK WAWeZAINeHAHeTAHeYEH"]⟩,
  ⟨0x1eeab,
   ["aARABIC MATHEMATICAL DOUBLE-STRUCK LAMeMEEMeNOONeSEENeAINeFEHeSADeQAFeREHeSHEENeTEHeTHEH",
    "eKHAHeTHALeDADeZAHeGHAIN"]⟩,
  ⟨0x1eef0, ["aARABIC MATHEMATICAL OPERATOR MEEM nHAH nTATWEELdHAH nDAL"]⟩,
  ⟨0x1f000,
   ["aMAHJONG TILE EAST WINDcSOUTH WINDcWEST WINDcNORTH WINDcRED DRAGONcGREEN DRAGON",
    "cWHITE DRAGONcONE OF CHARACTERScTWO OF CHARACTERScTHREE OF CHARACTERScFOUR OF CHARACTERS",
    "cFIVE OF CHARACTERScSIX OF CHARACTERScSEVEN OF CHARACTERScEIGHT OF CHARACTERS",
    "cNINE OF CHARACTERScONE OF BAMBOOScTWO OF BAMBOOScTHREE OF BAMBOOScFOUR OF BAMBOOS",
    "cFIVE OF BAMBOOScSIX OF BAMBOOScSEVEN OF BAMBOOScEIGHT OF BAMBOOScNINE OF BAMBOOS",
    "cONE OF CIRCLEScTWO OF CIRCLEScTHREE OF CIRCLEScFOUR OF CIRCLEScFIVE OF CIRCLES",
    "cSIX OF CIRCLEScSEVEN OF CIRCLEScEIGHT OF CIRCLEScNINE OF CIRCLEScPLUMcORCHIDcBAMBOO",
    "cCHRYSANTHEMUMcSPRINGcSUMMERcAUTUMNcWINTERcJOKERcBACK"]⟩,
  ⟨0x1f030,
   ["aDOMINO TILE HORIZONTAL BACKcHORIZONTAL-00-00e01e02e03e04e05e06d01-00e01e02e03e04e05e06",
    "d02-00e01e02e03e04e05e06d03-00e01e02e03e04e05e06d04-00e01e02e03e04e05e06d05-00e01e02e03e04",
    "e05e06d06-00e01e02e03e04e05e06cVERTICAL BACKcVERTICAL-00-00e01e02e03e04e05e06d01-00e01e02",
    "e03e04e05e06d02-00e01e02e03e04e05e06d03-00e01e02e03e04e05e06d04-00e01e02e03e04e05e06d05-00",
    "e01e02e03e04e05e06d06-00e01e02e03e04e05e06"]⟩,
  ⟨0x1f0a0,
   ["aPLAYING CARD BACKcACE OF SPADEScTWO OF SPADEScTHREE OF SPADEScFOUR OF SPADES",
    "cFIVE OF SPADEScSIX OF SPADEScSEVEN OF SPADEScEIGHT OF SPADEScNINE OF SPADEScTEN OF SPADES",
    "cJACK OF SPADEScKNIGHT OF SPADEScQUEEN OF SPADEScKING OF SPADES"]⟩,
  ⟨0x1f0b1,
   ["aPLAYING CARD ACE OF HEARTScTWO OF HEARTScTHREE OF HEARTScFOUR OF HEARTScFIVE OF HEARTS",
    "cSIX OF HEARTScSEVEN OF HEARTScEIGHT OF HEARTScNINE OF HEARTScTEN OF HEARTScJACK OF HEARTS",
    "cKNIGHT OF HEARTScQUEEN OF HEARTScKING OF HEARTScRED JOKER"]⟩,
  ⟨0x1f0c1,
   ["aPLAYING CARD ACE OF DIAMONDScTWO OF DIAMONDScTHREE OF DIAMONDScFOUR OF DIAMONDS",
    "cFIVE OF DIAMONDScSIX OF DIAMONDScSEVEN OF DIAMONDScEIGHT OF DIAMONDScNINE OF DIAMONDS",
    "cTEN OF DIAMONDScJACK OF DIAMONDScKNIGHT OF DIAMONDScQUEEN OF DIAMONDScKING OF DIAMONDS",
    "cBLACK JOKER"]⟩,
  ⟨0x1f0d1,
   ["aPLAYING CARD ACE OF CLUBScTWO OF CLUBScTHREE OF CLUBScFOUR OF CLUBScFIVE OF CLUBS",
    "cSIX OF CLUBScSEVEN OF CLUBScEIGHT OF CLUBScNINE OF CLUBScTEN OF CLUBScJACK OF CLUBS",
    "cKNIGHT OF CLUBScQUEEN OF CLUBScKING OF CLUBScWHITE JOKERcFOOLcTRUMP-1d2d3d4d5d6d7d8d9d10",
    "d11d12d13d14d15d16d17d18d19d20d21"]⟩,
  ⟨0x1f100,
   ["aDIGIT ZERO FULL STOPcCOMMAbONE COMMAbTWO COMMAbTHREE COMMAbFOUR COMMAbFIVE COMMAbSIX COMMA",
    "bSEVEN COMMAbEIGHT COMMAbNINE COMMAaDINGBAT CIRCLED SANS-SERIF DIGIT ZERO",
    "bNEGATIVE CIRCLED SANS-SERIF DIGIT ZEROaCIRCLED ZERO nSLASHbANTICLOCKWISE z",
    "bDOLLAR ynOVERLAID BACKSLASHaPARENTHESIZED LATIN omAeBeCeDeEeFeGeHeIeJeKeLeMeNeOePeQeReSeT",
    "eUeVeWeXeYeZaTORTOISE SHELL BRACKETED LATIN omSaCIRCLED ITALIC LATIN omCfRbCDbWZ",
    "aCOPYLEFT SYMBOLaSQUARED LATIN omAeBeCeDeEeFeGeHeIeJeKeLeMeNeOePeQeReSeTeUeVeWeXeYeZbHVbMV",
    "bSDbSSbPPVbWCaNEGATIVE CIRCLED LATIN omAfBfCfDfEfFfGfHfIfJfKfLfMfNfOfPfQfRfSfTfUfVfWfXfYfZ",
    "aRAISED MC SIGNbMD SIGNbMR SIGNaCIRCLED CCbC nOVERLAID BACKSLASHbHUMAN FIGURE",
    "aNEGATIVE SQUARED LATIN omAfBfCfDfEfFfGfHfIfJfKfLfMfNfOfPfQfRfSfTfUfVfWfXfYfZ",
    "aCROSSED NEGATIVE SQUARED LATIN omPaNEGATIVE SQUARED ICcPAcSAcABcWCaSQUARE DJaSQUARED CL",
    "bCOOLbFREEbIDbNEWbNGbOKbSOSbUP nEXCLAMATION MARKbVSbTHREE DbSECOND SCREENbTWO KbFOUR K",
    "bEIGHT KbFIVE POINT ONEbSEVEN POINT ONEbTWENTY-TWO POINT TWObSIXTY PbONE HUNDRED TWENTY P",
    "bLATIN pmDbHCbHDRbHI-RESbLOSSLESSbSHVbUHDbVODaMASK WORK SYMBOL"]⟩,
  ⟨0x1f1e6,
   ["aREGIONAL INDICATOR SYMBOL mAeBeCeDeEeFeGeHeIeJeKeLeMeNeOePeQeReSeTeUeVeWeXeYeZ",
    "aSQUARE HIRAGANA HOKAaSQUARED KATAKANA KOKOcSA"]⟩,
  ⟨0x1f210,
   ["aSQUARED CJK UNIFIED IDEOGRAPH-624Be5B57e53CCbKATAKANA DEbCJK UNIFIED IDEOGRAPH-4E8Ce591A",
    "e89E3e5929e4EA4e6620e7121e6599e524De5F8Ce518De65B0e521De7D42e751Fe8CA9e58F0e5439e6F14e6295",
    "e6355e4E00e4E09e904Ae5DE6e4E2De53F3e6307e8D70e6253e7981e7A7Ae5408e6E80e6709e6708e7533e5272",
    "e55B6e914D"]⟩,
  ⟨0x1f240,
   ["aTORTOISE SHELL BRACKETED CJK UNIFIED IDEOGRAPH-672Cg4E09g4E8Cg5B89g70B9g6253g76D7g52DD",
    "g6557"]⟩,
  ⟨0x1f250, ["aCIRCLED IDEOGRAPH ADVANTAGEcACCEPT"]⟩,
  ⟨0x1f260, ["aROUNDED SYMBOL FOR FUdLUdSHOUdXIdSHUANGXIdCAI"]⟩,
  ⟨0x1f300,
   ["aCYCLONEaFOGGYaCLOSED UMBRELLAaNIGHT nSTARSaSUNRISE OVER MOUNTAINSaSUNRISE",
    "aCITYSCAPE AT DUSKaSUNSET OVER BUILDINGSaRAINBOWaBRIDGE AT NIGHTaWATER WAVEaVOLCANO",
    "aMILKY WAYaEARTH GLOBE EUROPE-AFRICAcAMERICAScASIA-AUSTRALIAaGLOBE nMERIDIANS",
    "aNEW MOON SYMBOLaWAXING CRESCENT MOON SYMBOLaFIRST QUARTER MOON SYMBOL",
    "aWAXING GIBBOUS MOON SYMBOLaFULL MOON SYMBOLaWANING GIBBOUS MOON SYMBOL",
    "aLAST QUARTER MOON SYMBOLaWANING CRESCENT MOON SYMBOLaCRESCENT MOONaNEW MOON nFACE",
    "aFIRST QUARTER MOON nFACEaLAST QUARTER MOON nFACEaFULL MOON nFACEaSUN nFACEaGLOWING STAR",
    "aSHOOTING STARaTHERMOMETERaBLACK DROPLETaWHITE SUNbSUN npCLOUDcBEHIND CLOUDdCLOUD nRAIN",
    "aCLOUD nRAINcSNOWcLIGHTNINGcTORNADOaFOGaWIND BLOWING FACEaHOT DOGaTACOaBURRITOaCHESTNUT",
    "aSEEDLINGaEVERGREEN TREEaDECIDUOUS TREEaPALM TREEaCACTUSaHOT PEPPERaTULIPaCHERRY BLOSSOM",
    "aROSEaHIBISCUSaSUNFLOWERaBLOSSOMaEAR OF MAIZEcRICEaHERBaFOUR LEAF CLOVERaMAPLE LEAF",
    "aFALLEN LEAFaLEAF FLUTTERING IN WINDaMUSHROOMaTOMATOaAUBERGINEaGRAPESaMELONaWATERMELON",
    "aTANGERINEaLEMONaBANANAaPINEAPPLEaRED APPLEaGREEN APPLEaPEARaPEACHaCHERRIESaSTRAWBERRY",
    "aHAMBURGERaSLICE OF PIZZAaMEAT ON BONEaPOULTRY LEGaRICE CRACKERbBALLaCOOKED RICE",
    "aCURRY tRICEaSTEAMING BOWLaSPAGHETTIaBREADaFRENCH FRIESaROASTED SWEET POTATOaDANGOaODEN",
    "aSUSHIaFRIED SHRIMPaFISH CAKE nSWIRL DESIGNaSOFT ICE CREAMaSHAVED ICEaICE CREAMaDOUGHNUT",
    "aCOOKIEaCHOCOLATE BARaCANDYaLOLLIPOPaCUSTARDaHONEY POTaSHORTCAKEaBENTO BOXaPOT OF FOOD",
    "aCOOKINGaFORK tKNIFEaTEACUP WITHOUT HANDLEaSAKE BOTTLE tCUPaWINE GLASSaCOCKTAIL GLASS",
    "aTROPICAL DRINKaBEER MUGaCLINKING BEER MUGSaBABY BOTTLEaFORK tKNIFE nPLATE",
    "aBOTTLE nPOPPING CORKaPOPCORNaRIBBONaWRAPPED PRESENTaBIRTHDAY CAKEaJACK-O-LANTERN",
    "aCHRISTMAS TREEaFATHER CHRISTMASaFIREWORKSaFIREWORK SPARKLERaBALLOONaPARTY POPPER",
    "aCONFETTI BALLaTANABATA TREEaCROSSED FLAGSaPINE DECORATIONaJAPANESE DOLLSaCARP STREAMER",
    "aWIND CHIMEaMOON VIEWING CEREMONYaSCHOOL SATCHELaGRADUATION CAPaHEART nTIP ON THE LEFT",
    "aBOUQUET OF FLOWERSaMILITARY MEDALaREMINDER RIBBONaMUSICAL KEYBOARD nJACKS",
    "aSTUDIO MICROPHONEaLEVEL SLIDERaCONTROL KNOBSaBEAMED ASCENDING MUSICAL NOTES",
    "bDESCENDING MUSICAL NOTESaFILM FRAMESaADMISSION TICKETSaCAROUSEL HORSEaFERRIS WHEEL",
    "aROLLER COASTERaFISHING POLE tFISHaMICROPHONEaMOVIE CAMERAaCINEMAaHEADPHONEaARTIST PALETTE",
    "aTOP HATaCIRCUS TENTaTICKETaCLAPPER BOARDaPERFORMING ARTSaVIDEO GAMEaDIRECT HIT",
    "aSLOT MACHINEaBILLIARDSaGAME DIEaBOWLINGaFLOWER PLAYING CARDSaMUSICAL NOTE",
    "aMULTIPLE MUSICAL NOTESaSAXOPHONEaGUITARaMUSICAL KEYBOARDaTRUMPETaVIOLINaMUSICAL SCORE",
    "aRUNNING SHIRT nSASHaTENNIS RACQUET tBALLaSKI tSKI BOOTaBASKETBALL tHOOPaCHEQUERED FLAG",
    "aSNOWBOARDERaRUNNERaSURFERaSPORTS MEDALaTROPHYaHORSE RACINGaAMERICAN FOOTBALL",
    "aRUGBY FOOTBALLaSWIMMERaWEIGHT LIFTERaGOLFERaRACING MOTORCYCLEbCARaCRICKET BAT tBALL",
    "aVOLLEYBALLaFIELD HOCKEY STICK tBALLaICE HOCKEY STICK tPUCKaTABLE TENNIS PADDLE tBALL",
    "aSNOW CAPPED MOUNTAINaCAMPINGaBEACH nUMBRELLAaBUILDING CONSTRUCTIONaHOUSE BUILDINGS",
    "aCITYSCAPEaDERELICT HOUSE BUILDINGaCLASSICAL BUILDINGaDESERTaDESERT ISLANDaNATIONAL PARK",
    "aSTADIUMaHOUSE BUILDINGbnGARDENaOFFICE BUILDINGaJAPANESE POST OFFICEaEUROPEAN POST OFFICE",
    "aHOSPITALaBANKaAUTOMATED TELLER MACHINEaHOTELaLOVE HOTELaCONVENIENCE STOREaSCHOOL",
    "aDEPARTMENT STOREaFACTORYaIZAKAYA LANTERNaJAPANESE CASTLEaEUROPEAN CASTLEaWHITE PENNANT",
    "aBLACK PENNANTaWAVING WHITE FLAGbBLACK FLAGaROSETTEaBLACK ROSETTEaLABEL",
    "aBADMINTON RACQUET tSHUTTLECOCKaBOW tzaAMPHORAaEMOJI MODIFIER FITZPATRICK TYPE-1-2e3e4e5e6",
    "aRATaMOUSEaOXaWATER BUFFALOaCOWaTIGERaLEOPARDaRABBITaCATaDRAGONaCROCODILEaWHALEaSNAILaSNAKE",
    "aHORSEaRAMaGOATaSHEEPaMONKEYaROOSTERaCHICKENaDOGaPIGaBOARaELEPHANTaOCTOPUSaSPIRAL SHELLaBUG",
    "aANTaHONEYBEEaLADY BEETLEaFISHaTROPICAL FISHaBLOWFISHaTURTLEaHATCHING CHICKaBABY CHICK",
    "aFRONT-FACING BABY CHICKaBIRDaPENGUINaKOALAaPOODLEaDROMEDARY CAMELaBACTRIAN CAMELaDOLPHIN",
    "aMOUSE FACEaCOW FACEaTIGER FACEaRABBIT FACEaCAT FACEaDRAGON FACEaSPOUTING WHALEaHORSE FACE",
    "aMONKEY FACEaDOG FACEaPIG FACEaFROG FACEaHAMSTER FACEaWOLF FACEaBEAR FACEaPANDA FACE",
    "aPIG NOSEaPAW PRINTSaCHIPMUNKaEYESaEYEaEARaNOSEaMOUTHaTONGUE",
    "aWHITE UP POINTING BACKHAND INDEXbDOWN POINTING BACKHAND INDEXbxPOINTING BACKHAND INDEX",
    "buPOINTING BACKHAND INDEXaFISTED HAND SIGNaWAVING HAND SIGNaOK HAND SIGNaTHUMBS UP SIGN",
    "bDOWN SIGNaCLAPPING HANDS SIGNaOPEN HANDS SIGNaCROWNaWOMANS HATaEYEGLASSESaNECKTIEaT-SHIRT",
    "aJEANSaDRESSaKIMONOaBIKINIaWOMANS CLOTHESaPURSEaHANDBAGaPOUCHaMANS SHOEaATHLETIC SHOE",
    "aHIGH-HEELED SHOEaWOMANS SANDALbBOOTSaFOOTPRINTSaBUST IN SILHOUETTEaBUSTS IN SILHOUETTEaBOY",
    "aGIRLaMANaWOMANaFAMILYaMAN tWOMAN HOLDING HANDSaTWO MEN HOLDING HANDSbWOMEN HOLDING HANDS",
    "aPOLICE OFFICERaWOMAN nBUNNY EARSaBRIDE nVEILaPERSON nBLOND HAIRaMAN nGUA PI MAOcTURBAN",
    "aOLDER MANbWOMANaBABYaCONSTRUCTION WORKERaPRINCESSaJAPANESE OGREbGOBLINaGHOSTaBABY ANGEL",
    "aEXTRATERRESTRIAL ALIENaALIEN MONSTERaIMPaSKULLaINFORMATION DESK PERSONaGUARDSMANaDANCER",
    "aLIPSTICKaNAIL POLISHaFACE MASSAGEaHAIRCUTaBARBER POLEaSYRINGEaPILLaKISS MARKaLOVE LETTER",
    "aRINGaGEM STONEaKISSaBOUQUETaCOUPLE nHEARTaWEDDINGaBEATING HEARTaBROKEN HEARTaTWO HEARTS",
    "aSPARKLING HEARTaGROWING HEARTaHEART nzaBLUE HEARTaGREEN HEARTaYELLOW HEARTaPURPLE HEART",
    "aHEART nRIBBONaREVOLVING HEARTSaHEART DECORATIONaDIAMOND SHAPE nA DOT INSIDE",
    "aELECTRIC LIGHT BULBaANGER SYMBOLaBOMBaSLEEPING SYMBOLaCOLLISION SYMBOL",
    "aSPLASHING SWEAT SYMBOLaDROPLETaDASH SYMBOLaPILE OF POOaFLEXED BICEPSaDIZZY SYMBOL",
    "aSPEECH BALLOONaTHOUGHT BALLOONaWHITE FLOWERaHUNDRED POINTS SYMBOLaMONEY BAG",
    "aCURRENCY EXCHANGEaHEAVY DOLLAR SIGNaCREDIT CARDaBANKNOTE nYEN SIGNcDOLLAR SIGNcEURO SIGN",
    "cPOUND SIGNaMONEY nWINGSaCHART nUPWARDS TREND tYEN SIGNaSEATaPERSONAL COMPUTERaBRIEFCASE",
    "aMINIDISCaFLOPPY DISKaOPTICAL DISCaDVDaFILE FOLDERaOPEN FILE FOLDERaPAGE nCURLbFACING UP",
    "aCALENDARaTEAR-OFF CALENDARaCARD INDEXaCHART nUPWARDS TRENDcDOWNWARDS TRENDaBAR CHART",
    "aCLIPBOARDaPUSHPINaROUND PUSHPINaPAPERCLIPaSTRAIGHT RULERaTRIANGULAR RULERaBOOKMARK TABS",
    "aLEDGERaNOTEBOOKaNOTEBOOK nDECORATIVE COVERaCLOSED BOOKaOPEN BOOKaGREEN BOOKaBLUE BOOK",
    "aORANGE BOOKaBOOKSaNAME BADGEaSCROLLaMEMOaTELEPHONE RECEIVERaPAGERaFAX MACHINE",
    "aSATELLITE ANTENNAaPUBLIC ADDRESS LOUDSPEAKERaCHEERING MEGAPHONEaOUTBOX TRAYaINBOX TRAY",
    "aPACKAGEaE-MAIL SYMBOLaINCOMING ENVELOPEaENVELOPE nDOWNWARDS ARROW ABOVE",
    "aCLOSED MAILBOX nLOWERED FLAGdRAISED FLAGaOPEN MAILBOX nRAISED FLAGdLOWERED FLAGaPOSTBOX",
    "aPOSTAL HORNaNEWSPAPERaMOBILE PHONEbPHONE nvARROW AT LEFTaVIBRATION MODEaMOBILE PHONE OFF",
    "aNO MOBILE PHONESaANTENNA nBARSaCAMERAaCAMERA nFLASHaVIDEO CAMERAaTELEVISIONaRADIO",
    "aVIDEOCASSETTEaFILM PROJECTORaPORTABLE STEREOaPRAYER BEADSaTWISTED vARROWS",
    "aCLOCKWISE vtLEFTWARDS OPEN CIRCLE ARROWSgARROWS nCIRCLED ONE OVERLAY",
    "bDOWNWARDS tUPWARDS OPEN CIRCLE ARROWSaANTICLOCKWISE DOWNWARDS tUPWARDS OPEN CIRCLE ARROWS",
    "aLOW BRIGHTNESS SYMBOLaHIGH BRIGHTNESS SYMBOLaSPEAKER nCANCELLATION STROKEaSPEAKER",
    "aSPEAKER nONE SOUND WAVEcTHREE SOUND WAVESaBATTERYaELECTRIC PLUG",
    "aLEFT-POINTING MAGNIFYING GLASSaRIGHT-POINTING MAGNIFYING GLASSaLOCK nINK PEN",
    "aCLOSED LOCK nKEYaKEYaLOCKaOPEN LOCKaBELLaBELL nCANCELLATION STROKEaBOOKMARKaLINK SYMBOL",
    "aRADIO BUTTONaBACK nLEFTWARDS ARROW ABOVEaEND nLEFTWARDS ARROW ABOVE",
    "aON nEXCLAMATION MARK nxuARROW ABOVEaSOON nvARROW ABOVEaTOP nUPWARDS ARROW ABOVE",
    "aNO ONE UNDER EIGHTEEN SYMBOLaKEYCAP TENaINPUT SYMBOL FOR LATIN oLETTERSepLETTERSdNUMBERS",
    "dSYMBOLSdLATIN LETTERSaFIREaELECTRIC TORCHaWRENCHaHAMMERaNUT tBOLTaHOCHOaPISTOLaMICROSCOPE",
    "aTELESCOPEaCRYSTAL BALLaSIX POINTED STAR nMIDDLE DOTaJAPANESE SYMBOL FOR BEGINNER",
    "aTRIDENT EMBLEMaBLACK SQUARE BUTTONaWHITE SQUARE BUTTONaLARGE RED CIRCLEbBLUE CIRCLE",
    "bORANGE DIAMONDbBLUE DIAMONDapORANGE DIAMONDbBLUE DIAMONDaUP-POINTING RED TRIANGLE",
    "aDOWN-POINTING RED TRIANGLEaUP-POINTING pRED TRIANGLEaDOWN-POINTING pRED TRIANGLE",
    "aLOWER uSHADOWED WHITE CIRCLEaUPPER uSHADOWED WHITE CIRCLEaCIRCLED CROSS POMMEE",
    "aCROSS POMMEE nHALF-CIRCLE BELOWbPOMMEEaNOTCHED xSEMICIRCLE nTHREE DOTS",
    "buSEMICIRCLE nTHREE DOTSaSYMBOL FOR MARKS CHAPTERaWHITE LATIN CROSSaHEAVY LATIN CROSS",
    "aCELTIC CROSSaOM SYMBOLaDOVE OF PEACEaKAABAaMOSQUEaSYNAGOGUEaMENORAH nNINE BRANCHES",
    "aBOWL OF HYGIEIAaCLOCK FACE ONE OCLOCKcTWO OCLOCKcTHREE OCLOCKcFOUR OCLOCKcFIVE OCLOCK",
    "cSIX OCLOCKcSEVEN OCLOCKcEIGHT OCLOCKcNINE OCLOCKcTEN OCLOCKcELEVEN OCLOCKcTWELVE OCLOCK",
    "cONE-THIRTYcTWO-THIRTYcTHREE-THIRTYcFOUR-THIRTYcFIVE-THIRTYcSIX-THIRTYcSEVEN-THIRTY",
    "cEIGHT-THIRTYcNINE-THIRTYcTEN-THIRTYcELEVEN-THIRTYcTWELVE-THIRTYauSPEAKER",
    "bSPEAKER nONE SOUND WAVEdTHREE SOUND WAVESaBULLHORNaBULLHORN nSOUND WAVESaRINGING BELLaBOOK",
    "aCANDLEaMANTELPIECE CLOCKaBLACK SKULL tCROSSBONESaNO PIRACYaHOLE",
    "aMAN IN BUSINESS SUIT LEVITATINGaSLEUTH OR SPYaDARK SUNGLASSESaSPIDERaSPIDER WEBaJOYSTICK",
    "aMAN DANCINGaxHAND TELEPHONE RECEIVERaTELEPHONE RECEIVER nPAGEauHAND TELEPHONE RECEIVER",
    "aWHITE TOUCHTONE TELEPHONEaBLACK TOUCHTONE TELEPHONEaTELEPHONE ON TOP OF MODEM",
    "aCLAMSHELL MOBILE PHONEaBACK OF ENVELOPEaSTAMPED ENVELOPEaENVELOPE nLIGHTNING",
    "aFLYING ENVELOPEaPEN OVER STAMPED ENVELOPEaLINKED PAPERCLIPSaBLACK PUSHPINaLOWER xPENCIL",
    "cBALLPOINT PENcFOUNTAIN PENcPAINTBRUSHcCRAYONaxWRITING HANDaTURNED OK HAND SIGN",
    "aRAISED HAND nFINGERS SPLAYEDaREVERSED RAISED HAND nFINGERS SPLAYEDbTHUMBS UP SIGN",
    "cDOWN SIGNbVICTORY HANDbHAND nMIDDLE FINGER EXTENDED",
    "aRAISED HAND nPART BETWEEN MIDDLE tRING FINGERSaWHITE DOWN POINTING xHAND INDEX",
    "aSIDEWAYS WHITE xPOINTING INDEXcuPOINTING INDEXbBLACK xPOINTING INDEXcuPOINTING INDEX",
    "aBLACK xPOINTING BACKHAND INDEXbuPOINTING BACKHAND INDEXaSIDEWAYS WHITE UP POINTING INDEX",
    "cDOWN POINTING INDEXbBLACK UP POINTING INDEXcDOWN POINTING INDEX",
    "aBLACK UP POINTING BACKHAND INDEXbDOWN POINTING BACKHAND INDEXbHEARTaDESKTOP COMPUTER",
    "aKEYBOARD tMOUSEaTHREE NETWORKED COMPUTERSaPRINTERaPOCKET CALCULATOR",
    "aBLACK HARD SHELL FLOPPY DISKaWHITE HARD SHELL FLOPPY DISKaSOFT SHELL FLOPPY DISK",
    "aTAPE CARTRIDGEaWIRED KEYBOARDaONE BUTTON MOUSEaTWO BUTTON MOUSEaTHREE BUTTON MOUSE",
    "aTRACKBALLaOLD PERSONAL COMPUTERaHARD DISKaSCREENaPRINTER ICONaFAX ICONaOPTICAL DISC ICON",
    "aDOCUMENT nTEXTcTEXT tPICTUREcPICTUREaFRAME nPICTUREcTILEScAN XaBLACK FOLDERaFOLDER",
    "aOPEN FOLDERaCARD INDEX DIVIDERSbFILE BOXaFILE CABINETaEMPTY NOTEbNOTE PAGEcPADaNOTE",
    "aNOTE PAGEbPADaEMPTY DOCUMENTbPAGEbPAGESaDOCUMENTaPAGEaPAGESaWASTEBASKETaSPIRAL NOTE PAD",
    "bCALENDAR PADaDESKTOP WINDOWaMINIMIZEaMAXIMIZEaOVERLAPaCLOCKWISE utxSEMICIRCLE ARROWS",
    "aCANCELLATION XaINCREASE FONT SIZE SYMBOLaDECREASE FONT SIZE SYMBOLaCOMPRESSIONaOLD KEY",
    "aROLLED-UP NEWSPAPERaPAGE nCIRCLED TEXTaSTOCK CHARTaDAGGER KNIFEaLIPS",
    "aSPEAKING HEAD IN SILHOUETTEaTHREE RAYS ABOVEcBELOWcLEFTcRIGHTaxSPEECH BUBBLE",
    "auSPEECH BUBBLEaTWO SPEECH BUBBLESaTHREE SPEECH BUBBLESaxTHOUGHT BUBBLEauTHOUGHT BUBBLE",
    "axANGER BUBBLEauANGER BUBBLEaMOOD BUBBLEaLIGHTNING MOOD BUBBLEbMOODaBALLOT BOX nBALLOT",
    "bSCRIPT XbBOX nSCRIPT XbBOLD SCRIPT XbBOX nBOLD SCRIPT XaLIGHT CHECK MARK",
    "aBALLOT BOX nBOLD CHECKaWORLD MAPaMOUNT FUJIaTOKYO TOWERaSTATUE OF LIBERTY",
    "aSILHOUETTE OF JAPANaMOYAIaGRINNING FACEbFACE nSMILING EYESaFACE nTEARS OF JOY",
    "aSMILING FACE nOPEN MOUTHeMOUTH tSMILING EYESgCOLD SWEATgTIGHTLY-CLOSED EYESdHALOdHORNS",
    "aWINKING FACEaSMILING FACE nSMILING EYESaFACE SAVOURING DELICIOUS FOODaRELIEVED FACE",
    "aSMILING FACE nHEART-SHAPED EYESdSUNGLASSESaSMIRKING FACEaNEUTRAL FACEaEXPRESSIONLESS FACE",
    "aUNAMUSED FACEaFACE nCOLD SWEATaPENSIVE FACEaCONFUSED FACEaCONFOUNDED FACEaKISSING FACE",
    "aFACE THROWING A KISSaKISSING FACE nSMILING EYESdCLOSED EYESaFACE nSTUCK-OUT TONGUE",
    "eTONGUE tWINKING EYEgTIGHTLY-CLOSED EYESaDISAPPOINTED FACEaWORRIED FACEaANGRY FACE",
    "aPOUTING FACEaCRYING FACEaPERSEVERING FACEaFACE nLOOK OF TRIUMPH",
    "aDISAPPOINTED BUT RELIEVED FACEaFROWNING FACE nOPEN MOUTHaANGUISHED FACEaFEARFUL FACE",
    "aWEARY FACEaSLEEPY FACEaTIRED FACEaGRIMACING FACEaLOUDLY CRYING FACEaFACE nOPEN MOUTH",
    "aHUSHED FACEaFACE nOPEN MOUTH tCOLD SWEATbSCREAMING IN FEARaASTONISHED FACEaFLUSHED FACE",
    "aSLEEPING FACEaDIZZY FACEaFACE WITHOUT MOUTHbnMEDICAL MASKaGRINNING CAT FACE nSMILING EYES",
    "aCAT FACE nTEARS OF JOYaSMILING CAT FACE nOPEN MOUTHeHEART-SHAPED EYESaCAT FACE nWRY SMILE",
    "aKISSING CAT FACE nCLOSED EYESaPOUTING CAT FACEaCRYING CAT FACEaWEARY CAT FACE",
    "aSLIGHTLY FROWNING FACEbSMILING FACEaUPSIDE-DOWN FACEaFACE nROLLING EYEScNO GOOD GESTURE",
    "cOK GESTUREaPERSON BOWING DEEPLYaSEE-NO-EVIL MONKEYaHEAR-NO-EVIL MONKEY",
    "aSPEAK-NO-EVIL MONKEYaHAPPY PERSON RAISING ONE HAND",
    "aPERSON RAISING BOTH HANDS IN CELEBRATIONbFROWNINGbnPOUTING FACEcFOLDED HANDS",
    "aNORTH WEST POINTING LEAFaSOUTH WEST POINTING LEAFaNORTH EAST POINTING LEAF",
    "aSOUTH EAST POINTING LEAFaTURNED NORTH WEST POINTING LEAFbSOUTH WEST POINTING LEAF",
    "bNORTH EAST POINTING LEAFbSOUTH EAST POINTING LEAFaNORTH WEST POINTING VINE LEAF",
    "aSOUTH WEST POINTING VINE LEAFaNORTH EAST POINTING VINE LEAFaSOUTH EAST POINTING VINE LEAF",
    "aHEAVY NORTH WEST POINTING VINE LEAFbSOUTH WEST POINTING VINE LEAF",
    "bNORTH EAST POINTING VINE LEAFbSOUTH EAST POINTING VINE LEAFaNORTH WEST POINTING BUD",
    "aSOUTH WEST POINTING BUDaNORTH EAST POINTING BUDaSOUTH EAST POINTING BUD",
    "aHEAVY NORTH WEST POINTING BUDbSOUTH WEST POINTING BUDbNORTH EAST POINTING BUD",
    "bSOUTH EAST POINTING BUDaHOLLOW QUILT SQUARE ORNAMENTdORNAMENT IN BLACK SQUARE",
    "aSOLID QUILT SQUARE ORNAMENTdORNAMENT IN BLACK SQUAREaLEFTWARDS ROCKETaUPWARDS ROCKET",
    "avROCKETaDOWNWARDS ROCKETaSCRIPT LIGATURE ET ORNAMENTaHEAVY SCRIPT LIGATURE ET ORNAMENT",
    "aLIGATURE OPEN ET ORNAMENTaHEAVY LIGATURE OPEN ET ORNAMENTbAMPERSAND ORNAMENT",
    "aSWASH AMPERSAND ORNAMENTaSANS-SERIF HEAVY wTURNED COMMA QUOTATION MARK ORNAMENT",
    "eCOMMA QUOTATION MARK ORNAMENTdLOW wCOMMA QUOTATION MARK ORNAMENT",
    "aHEAVY INTERROBANG ORNAMENTaSANS-SERIF INTERROBANG ORNAMENT",
    "aHEAVY SANS-SERIF INTERROBANG ORNAMENTaVERY HEAVY SOLIDUScREVERSE SOLIDUSaCHECKER BOARD",
    "aREVERSE CHECKER BOARDaROCKETaHELICOPTERaSTEAM LOCOMOTIVEaRAILWAY CARaHIGH-SPEED TRAIN",
    "cTRAIN nBULLET NOSEaTRAINaMETROaLIGHT RAILaSTATIONaTRAMaTRAM CARaBUSaONCOMING BUS",
    "aTROLLEYBUSaBUS STOPaMINIBUSaAMBULANCEaFIRE ENGINEaPOLICE CARaONCOMING POLICE CARaTAXI",
    "aONCOMING TAXIaAUTOMOBILEaONCOMING AUTOMOBILEaRECREATIONAL VEHICLEaDELIVERY TRUCK",
    "aARTICULATED LORRYaTRACTORaMONORAILaMOUNTAIN RAILWAYaSUSPENSION RAILWAYaMOUNTAIN CABLEWAY",
    "aAERIAL TRAMWAYaSHIPaROWBOATaSPEEDBOATaHORIZONTAL TRAFFIC LIGHTaVERTICAL TRAFFIC LIGHT",
    "aCONSTRUCTION SIGNaPOLICE CARS REVOLVING LIGHTaTRIANGULAR FLAG ON POSTaDOORaNO ENTRY SIGN",
    "aSMOKING SYMBOLaNO SMOKING SYMBOLaPUT LITTER IN ITS PLACE SYMBOLaDO NOT LITTER SYMBOL",
    "aPOTABLE WATER SYMBOLaNON-POTABLE WATER SYMBOLaBICYCLEaNO BICYCLESaBICYCLIST",
    "aMOUNTAIN BICYCLISTaPEDESTRIANaNO PEDESTRIANSaCHILDREN CROSSINGaMENS SYMBOLaWOMENS SYMBOL",
    "aRESTROOMaBABY SYMBOLaTOILETaWATER CLOSETaSHOWERaBATHaBATHTUBaPASSPORT CONTROLaCUSTOMS",
    "aBAGGAGE CLAIMaxLUGGAGEaTRIANGLE nROUNDED CORNERSaPROHIBITED SIGN",
    "aCIRCLED INFORMATION SOURCEaBOYS SYMBOLaGIRLS SYMBOLaCOUCH tLAMPaSLEEPING ACCOMMODATION",
    "aSHOPPING BAGSaBELLHOP BELLaBEDaPLACE OF WORSHIPaOCTAGONAL SIGNaSHOPPING TROLLEYaSTUPA",
    "aPAGODAaHINDU TEMPLEaHUTaELEVATOR"]⟩,
  ⟨0x1f6dd,
   ["aPLAYGROUND SLIDEaWHEELaRING BUOYaHAMMER tWRENCHaSHIELDaOIL DRUMaMOTORWAYaRAILWAY TRACK",
    "aMOTOR BOATaUP-POINTING MILITARY AIRPLANEcAIRPLANEcpAIRPLANEapAIRPLANE",
    "aNORTHEAST-POINTING AIRPLANEaAIRPLANE DEPARTUREbARRIVING"]⟩,
  ⟨0x1f6f0,
   ["aSATELLITEaONCOMING FIRE ENGINEaDIESEL LOCOMOTIVEaPASSENGER SHIPaSCOOTERaMOTOR SCOOTER",
    "aCANOEaSLEDaFLYING SAUCERaSKATEBOARDaAUTO RICKSHAWaPICKUP TRUCKaROLLER SKATE"]⟩,
  ⟨0x1f700,
   ["aALCHEMICAL SYMBOL FOR QUINTESSENCEdAIRdFIREdEARTHdWATERdAQUAFORTISdAQUA REGIAeREGIA-2",
    "eVITAEeVITAE-2dVINEGARdVINEGAR-2e3dSULFURdPHILOSOPHERS SULFURdBLACK SULFUR",
    "dMERCURY SUBLIMATEeSUBLIMATE-2f3dCINNABARdSALTdNITREdVITRIOLdVITRIOL-2dROCK SALTeSALT-2",
    "dGOLDdSILVERdIRON OREeORE-2dCROCUS OF IRONdREGULUS OF IRONdCOPPER OREdIRON-COPPER ORE",
    "dSUBLIMATE OF COPPERdCROCUS OF COPPERfCOPPER-2dCOPPER ANTIMONIATE",
    "dSALT OF COPPER ANTIMONIATEdSUBLIMATE OF SALT OF COPPERdVERDIGRISdTIN OREdLEAD ORE",
    "dANTIMONY OREdSUBLIMATE OF ANTIMONYdSALT OF ANTIMONYdSUBLIMATE OF SALT OF ANTIMONY",
    "dVINEGAR OF ANTIMONYdREGULUS OF ANTIMONYfANTIMONY-2dREGULUSdREGULUS-2e3e4dALKALIdALKALI-2",
    "dMARCASITEdSAL-AMMONIACdARSENICdREALGARdREALGAR-2dAURIPIGMENTdBISMUTH OREdTARTARdTARTAR-2",
    "dQUICK LIMEdBORAXdBORAX-2e3dALUMdOILdSPIRITdTINCTUREdGUMdWAXdPOWDERdCALXdTUTTY",
    "dCAPUT MORTUUMdSCEPTER OF JOVEdCADUCEUSdTRIDENTdSTARRED TRIDENTdLODESTONEdSOAPdURINE",
    "dHORSE DUNGdASHESdPOT ASHESdBRICKdPOWDERED BRICKdAMALGAMdSTRATUM SUPER STRATUMfSTRATUM-2",
    "dSUBLIMATIONdPRECIPITATEdDISTILLdDISSOLVEdDISSOLVE-2dPURIFYdPUTREFACTIONdCRUCIBLE",
    "dCRUCIBLE-2e3e4e5dALEMBICdBATH OF MARYfVAPOURSdRETORTdHOURdNIGHTdDAY-NIGHTdMONTHdHALF DRAM",
    "eOUNCE"]⟩,
  ⟨0x1f780,
   ["aBLACK LEFT-POINTING ISOSCELES uTRIANGLEbUP-POINTING ISOSCELES uTRIANGLE",
    "bRIGHT-POINTING ISOSCELES uTRIANGLEbDOWN-POINTING ISOSCELES uTRIANGLEbSLIGHTLY pCIRCLE",
    "aMEDIUM BOLD WHITE CIRCLEaBOLD WHITE CIRCLEaHEAVY WHITE CIRCLEaVERY HEAVY WHITE CIRCLE",
    "aEXTREMELY HEAVY WHITE CIRCLEaWHITE CIRCLE CONTAINING BLACK pCIRCLEaROUND TARGET",
    "aBLACK TINY SQUAREbSLIGHTLY pSQUAREaLIGHT WHITE SQUAREaMEDIUM WHITE SQUARE",
    "aBOLD WHITE SQUAREaHEAVY WHITE SQUAREaVERY HEAVY WHITE SQUAREaEXTREMELY HEAVY WHITE SQUARE",
    "aWHITE SQUARE CONTAINING BLACK VERY pSQUAREeMEDIUM SQUAREaSQUARE TARGETaBLACK TINY DIAMOND",
    "bVERY pDIAMONDbMEDIUM pDIAMONDaWHITE DIAMOND CONTAINING BLACK VERY pDIAMONDeMEDIUM DIAMOND",
    "aDIAMOND TARGETaBLACK TINY LOZENGEbVERY pLOZENGEbMEDIUM pLOZENGE",
    "aWHITE LOZENGE CONTAINING BLACK pLOZENGEaTHIN GREEK CROSSaLIGHT GREEK CROSS",
    "aMEDIUM GREEK CROSSaBOLD GREEK CROSSaVERY BOLD GREEK CROSSbHEAVY GREEK CROSS",
    "aEXTREMELY HEAVY GREEK CROSSaTHIN SALTIREaLIGHT SALTIREaMEDIUM SALTIREaBOLD SALTIRE",
    "aHEAVY SALTIREaVERY HEAVY SALTIREaEXTREMELY HEAVY SALTIREaLIGHT FIVE SPOKED ASTERISK",
    "aMEDIUM FIVE SPOKED ASTERISKaBOLD FIVE SPOKED ASTERISKaHEAVY FIVE SPOKED ASTERISK",
    "aVERY HEAVY FIVE SPOKED ASTERISKaEXTREMELY HEAVY FIVE SPOKED ASTERISK",
    "aLIGHT SIX SPOKED ASTERISKaMEDIUM SIX SPOKED ASTERISKaBOLD SIX SPOKED ASTERISK",
    "aHEAVY SIX SPOKED ASTERISKaVERY HEAVY SIX SPOKED ASTERISK",
    "aEXTREMELY HEAVY SIX SPOKED ASTERISKaLIGHT EIGHT SPOKED ASTERISK",
    "aMEDIUM EIGHT SPOKED ASTERISKaBOLD EIGHT SPOKED ASTERISKaHEAVY EIGHT SPOKED ASTERISK",
    "aVERY HEAVY EIGHT SPOKED ASTERISKaLIGHT THREE POINTED BLACK STAR",
    "aMEDIUM THREE POINTED BLACK STARaTHREE POINTED BLACK STAR",
    "aMEDIUM THREE POINTED PINWHEEL STARaLIGHT FOUR POINTED BLACK STAR",
    "aMEDIUM FOUR POINTED BLACK STARaFOUR POINTED BLACK STARaMEDIUM FOUR POINTED PINWHEEL STAR",
    "aREVERSE LIGHT FOUR POINTED PINWHEEL STARaLIGHT FIVE POINTED BLACK STAR",
    "aHEAVY FIVE POINTED BLACK STARaMEDIUM SIX POINTED BLACK STARaHEAVY SIX POINTED BLACK STAR",
    "aSIX POINTED PINWHEEL STARaMEDIUM EIGHT POINTED BLACK STARaHEAVY EIGHT POINTED BLACK STAR",
    "aVERY HEAVY EIGHT POINTED BLACK STARaHEAVY EIGHT POINTED PINWHEEL STAR",
    "aLIGHT TWELVE POINTED BLACK STARaHEAVY TWELVE POINTED BLACK STARdPINWHEEL STAR",
    "aCIRCLED TRIANGLEaNEGATIVE CIRCLED TRIANGLEaCIRCLED SQUAREaNEGATIVE CIRCLED SQUARE"]⟩,
  ⟨0x1f7e0,
   ["aLARGE ORANGE CIRCLEbYELLOW CIRCLEbGREEN CIRCLEbPURPLE CIRCLEbBROWN CIRCLEbRED SQUARE",
    "bBLUE SQUAREbORANGE SQUAREbYELLOW SQUAREbGREEN SQUAREbPURPLE SQUAREbBROWN SQUARE"]⟩,
  ⟨0x1f7f0, ["aHEAVY EQUALS SIGN"]⟩,
  ⟨0x1f800,
   ["aLEFTWARDS ARROW npTRIANGLE ARROWHEADaUPWARDS ARROW npTRIANGLE ARROWHEAD",
    "avARROW npTRIANGLE ARROWHEADaDOWNWARDS ARROW npTRIANGLE ARROWHEAD",
    "aLEFTWARDS ARROW nMEDIUM TRIANGLE ARROWHEADaUPWARDS ARROW nMEDIUM TRIANGLE ARROWHEAD",
    "avARROW nMEDIUM TRIANGLE ARROWHEADaDOWNWARDS ARROW nMEDIUM TRIANGLE ARROWHEAD",
    "aLEFTWARDS ARROW nLARGE TRIANGLE ARROWHEADaUPWARDS ARROW nLARGE TRIANGLE ARROWHEAD",
    "avARROW nLARGE TRIANGLE ARROWHEADaDOWNWARDS ARROW nLARGE TRIANGLE ARROWHEAD"]⟩,
  ⟨0x1f810,
   ["aLEFTWARDS ARROW npEQUILATERAL ARROWHEADaUPWARDS ARROW npEQUILATERAL ARROWHEAD",
    "avARROW npEQUILATERAL ARROWHEADaDOWNWARDS ARROW npEQUILATERAL ARROWHEAD",
    "aLEFTWARDS ARROW nEQUILATERAL ARROWHEADaUPWARDS ARROW nEQUILATERAL ARROWHEAD",
    "avARROW nEQUILATERAL ARROWHEADaDOWNWARDS ARROW nEQUILATERAL ARROWHEAD",
    "aHEAVY LEFTWARDS ARROW nEQUILATERAL ARROWHEADbUPWARDS ARROW nEQUILATERAL ARROWHEAD",
    "bvARROW nEQUILATERAL ARROWHEADbDOWNWARDS ARROW nEQUILATERAL ARROWHEAD",
    "bLEFTWARDS ARROW nLARGE EQUILATERAL ARROWHEADbUPWARDS ARROW nLARGE EQUILATERAL ARROWHEAD",
    "bvARROW nLARGE EQUILATERAL ARROWHEADbDOWNWARDS ARROW nLARGE EQUILATERAL ARROWHEAD",
    "aLEFTWARDS TRIANGLE-HEADED ARROW nNARROW SHAFTaUPWARDS TRIANGLE-HEADED ARROW nNARROW SHAFT",
    "avTRIANGLE-HEADED ARROW nNARROW SHAFTaDOWNWARDS TRIANGLE-HEADED ARROW nNARROW SHAFT",
    "aLEFTWARDS TRIANGLE-HEADED ARROW nMEDIUM SHAFTaUPWARDS TRIANGLE-HEADED ARROW nMEDIUM SHAFT",
    "avTRIANGLE-HEADED ARROW nMEDIUM SHAFTaDOWNWARDS TRIANGLE-HEADED ARROW nMEDIUM SHAFT",
    "aLEFTWARDS TRIANGLE-HEADED ARROW nBOLD SHAFTaUPWARDS TRIANGLE-HEADED ARROW nBOLD SHAFT",
    "avTRIANGLE-HEADED ARROW nBOLD SHAFTaDOWNWARDS TRIANGLE-HEADED ARROW nBOLD SHAFT",
    "aLEFTWARDS TRIANGLE-HEADED ARROW nHEAVY SHAFTaUPWARDS TRIANGLE-HEADED ARROW nHEAVY SHAFT",
    "avTRIANGLE-HEADED ARROW nHEAVY SHAFTaDOWNWARDS TRIANGLE-HEADED ARROW nHEAVY SHAFT",
    "aLEFTWARDS TRIANGLE-HEADED ARROW nVERY HEAVY SHAFT",
    "aUPWARDS TRIANGLE-HEADED ARROW nVERY HEAVY SHAFTavTRIANGLE-HEADED ARROW nVERY HEAVY SHAFT",
    "aDOWNWARDS TRIANGLE-HEADED ARROW nVERY HEAVY SHAFTaLEFTWARDS FINGER-POST z",
    "aUPWARDS FINGER-POST zavFINGER-POST zaDOWNWARDS FINGER-POST zaLEFTWARDS SQUARED z",
    "aUPWARDS SQUARED zavSQUARED zaDOWNWARDS SQUARED zaLEFTWARDS COMPRESSED z",
    "aUPWARDS COMPRESSED zavCOMPRESSED zaDOWNWARDS COMPRESSED zaLEFTWARDS HEAVY COMPRESSED z",
    "aUPWARDS HEAVY COMPRESSED zavHEAVY COMPRESSED zaDOWNWARDS HEAVY COMPRESSED z",
    "aLEFTWARDS HEAVY zaUPWARDS HEAVY zavHEAVY zaDOWNWARDS HEAVY z"]⟩,
  ⟨0x1f850,
   ["aLEFTWARDS SANS-SERIF zaUPWARDS SANS-SERIF zavSANS-SERIF zaDOWNWARDS SANS-SERIF z",
    "aNORTH WEST SANS-SERIF zbEAST SANS-SERIF zaSOUTH EAST SANS-SERIF zbWEST SANS-SERIF z",
    "axuSANS-SERIF zaUP DOWN SANS-SERIF z"]⟩,
  ⟨0x1f860,
   ["aWIDE-HEADED LEFTWARDS LIGHT BARB zcUPWARDS LIGHT BARB zcvLIGHT BARB z",
    "cDOWNWARDS LIGHT BARB zcNORTH WEST LIGHT BARB zdEAST LIGHT BARB zcSOUTH EAST LIGHT BARB z",
    "dWEST LIGHT BARB zcLEFTWARDS BARB zcUPWARDS BARB zcvBARB zcDOWNWARDS BARB z",
    "cNORTH WEST BARB zdEAST BARB zcSOUTH EAST BARB zdWEST BARB zcLEFTWARDS MEDIUM BARB z",
    "cUPWARDS MEDIUM BARB zcvMEDIUM BARB zcDOWNWARDS MEDIUM BARB zcNORTH WEST MEDIUM BARB z",
    "dEAST MEDIUM BARB zcSOUTH EAST MEDIUM BARB zdWEST MEDIUM BARB zcLEFTWARDS HEAVY BARB z",
    "cUPWARDS HEAVY BARB zcvHEAVY BARB zcDOWNWARDS HEAVY BARB zcNORTH WEST HEAVY BARB z",
    "dEAST HEAVY BARB zcSOUTH EAST HEAVY BARB zdWEST HEAVY BARB zcLEFTWARDS VERY HEAVY BARB z",
    "cUPWARDS VERY HEAVY BARB zcvVERY HEAVY BARB zcDOWNWARDS VERY HEAVY BARB z",
    "cNORTH WEST VERY HEAVY BARB zdEAST VERY HEAVY BARB zcSOUTH EAST VERY HEAVY BARB z",
    "dWEST VERY HEAVY BARB z"]⟩,
  ⟨0x1f890,
   ["aLEFTWARDS TRIANGLE ARROWHEADaUPWARDS TRIANGLE ARROWHEADavTRIANGLE ARROWHEAD",
    "aDOWNWARDS TRIANGLE ARROWHEADaLEFTWARDS WHITE ARROW WITHIN TRIANGLE ARROWHEAD",
    "aUPWARDS WHITE ARROW WITHIN TRIANGLE ARROWHEADavWHITE ARROW WITHIN TRIANGLE ARROWHEAD",
    "aDOWNWARDS WHITE ARROW WITHIN TRIANGLE ARROWHEADaLEFTWARDS ARROW nNOTCHED TAIL",
    "aUPWARDS ARROW nNOTCHED TAILavARROW nNOTCHED TAILaDOWNWARDS ARROW nNOTCHED TAIL",
    "aHEAVY ARROW SHAFT WIDTH ONEeTWO THIRDSeONE HALFfTHIRDaLEFTWARDS BOTTOM-SHADED WHITE z",
    "avBOTTOM SHADED WHITE zaLEFTWARDS TOP SHADED WHITE zavTOP SHADED WHITE z",
    "aLEFTWARDS LEFT-SHADED WHITE zavRIGHT-SHADED WHITE zaLEFTWARDS RIGHT-SHADED WHITE z",
    "avLEFT-SHADED WHITE zaLEFTWARDS BACK-TILTED SHADOWED WHITE zavBACK-TILTED SHADOWED WHITE z",
    "aLEFTWARDS FRONT-TILTED SHADOWED WHITE zavFRONT-TILTED SHADOWED WHITE z",
    "aWHITE ARROW SHAFT WIDTH ONEeTWO THIRDS"]⟩,
  ⟨0x1f8b0, ["aARROW POINTING UPWARDS THEN NORTH WESTcvTHEN CURVING SOUTH WEST"]⟩,
  ⟨0x1f900,
   ["aCIRCLED CROSS FORMEE nFOUR DOTSeTWO DOTScFORMEEaxHALF CIRCLE nFOUR DOTSeTHREE DOTS",
    "eTWO DOTSeDOTcCIRCLEaDOWNWARD FACING HOOKcNOTCHED HOOKcHOOK nDOTcNOTCHED HOOK nDOT",
    "aPINCHED FINGERSaWHITE HEARTaBROWN HEARTaPINCHING HANDaZIPPER-MOUTH FACEaMONEY-MOUTH FACE",
    "aFACE nTHERMOMETERaNERD FACEaTHINKING FACEaFACE nHEAD-BANDAGEaROBOT FACEaHUGGING FACE",
    "ayOF THE HORNSaCALL ME HANDaRAISED BACK OF HANDaLEFT-FACING FISTaRIGHT-FACING FIST",
    "aHANDSHAKEaHAND nINDEX tMIDDLE FINGERS CROSSEDaI LOVE YOU HAND SIGNaFACE nCOWBOY HAT",
    "aCLOWN FACEaNAUSEATED FACEaROLLING ON THE FLOOR LAUGHINGaDROOLING FACEaLYING FACEaFACE PALM",
    "aSNEEZING FACEaFACE nONE EYEBROW RAISEDaGRINNING FACE nSTAR EYESdONE LARGE tONE pEYE",
    "aFACE nFINGER COVERING CLOSED LIPSaSERIOUS FACE nSYMBOLS COVERING MOUTH",
    "aSMILING FACE nSMILING EYES tHAND COVERING MOUTHaFACE nOPEN MOUTH VOMITING",
    "aSHOCKED FACE nEXPLODING HEADaPREGNANT WOMANaBREAST-FEEDINGaPALMS UP TOGETHERaSELFIEaPRINCE",
    "aMAN IN TUXEDOaMOTHER CHRISTMASaSHRUGaPERSON DOING CARTWHEELaJUGGLINGaFENCER",
    "aMODERN PENTATHLONaWRESTLERSaWATER POLOaHANDBALLaDIVING MASKaWILTED FLOWERaDRUM nDRUMSTICKS",
    "aCLINKING GLASSESaTUMBLER GLASSaSPOONaGOAL NETaRIFLEaFIRST PLACE MEDALaSECOND PLACE MEDAL",
    "aTHIRD PLACE MEDALaBOXING GLOVEaMARTIAL ARTS UNIFORMaCURLING STONEaLACROSSE STICK tBALL",
    "aSOFTBALLaFLYING DISCaCROISSANTaAVOCADOaCUCUMBERaBACONaPOTATOaCARROTaBAGUETTE BREAD",
    "aGREEN SALADaSHALLOW PAN OF FOODaSTUFFED FLATBREADaEGGaGLASS OF MILKaPEANUTSaKIWIFRUIT",
    "aPANCAKESaDUMPLINGaFORTUNE COOKIEaTAKEOUT BOXaCHOPSTICKSaBOWL nSPOONaCUP nSTRAWaCOCONUT",
    "aBROCCOLIaPIEaPRETZELaCUT OF MEATaSANDWICHaCANNED FOODaLEAFY GREENaMANGOaMOON CAKEaBAGEL",
    "aSMILING FACE nSMILING EYES tTHREE HEARTSaYAWNING FACEaSMILING FACE nTEAR",
    "aFACE nPARTY HORN tPARTY HATcUNEVEN EYES tWAVY MOUTHaOVERHEATED FACEaFREEZING FACEaNINJA",
    "aDISGUISED FACEaFACE HOLDING BACK TEARSbnPLEADING EYESaSARIaLAB COATaGOGGLESaHIKING BOOT",
    "aFLAT SHOEaCRABaLION FACEaSCORPIONaTURKEYaUNICORN FACEaEAGLEaDUCKaBATaSHARKaOWLaFOX FACE",
    "aBUTTERFLYaDEERaGORILLAaLIZARDaRHINOCEROSaSHRIMPaSQUIDaGIRAFFE FACEaZEBRA FACEaHEDGEHOG",
    "aSAUROPODaT-REXaCRICKETaKANGAROOaLLAMAaPEACOCKaHIPPOPOTAMUSaPARROTaRACCOONaLOBSTERaMOSQUITO",
    "aMICROBEaBADGERaSWANaMAMMOTHaDODOaSLOTHaOTTERaORANGUTANaSKUNKaFLAMINGOaOYSTERaBEAVERaBISON",
    "aSEALaGUIDE DOGaPROBING CANEaEMOJI COMPONENT RED HAIRcCURLY HAIRcBALDcWHITE HAIRaBONEaLEG",
    "aFOOTaTOOTHaSUPERHEROaSUPERVILLAINaSAFETY VESTaEAR nHEARING AIDaMOTORIZED WHEELCHAIR",
    "aMANUAL WHEELCHAIRaMECHANICAL ARMbLEGaCHEESE WEDGEaCUPCAKEaSALT SHAKERaBEVERAGE BOXaGARLIC",
    "aONIONaFALAFELaWAFFLEaBUTTERaMATE DRINKaICE CUBEaBUBBLE TEAaTROLLaSTANDING PERSON",
    "aKNEELING PERSONaDEAF PERSONaFACE nMONOCLEaADULTaCHILDaOLDER ADULTaBEARDED PERSON",
    "aPERSON nHEADSCARFbIN STEAMY ROOMbCLIMBINGbIN LOTUS POSITIONaMAGEaFAIRYaVAMPIREaMERPERSON",
    "aELFaGENIEaZOMBIEaBRAINaORANGE HEARTaBILLED CAPaSCARFaGLOVESaCOATaSOCKSaRED GIFT ENVELOPE",
    "aFIRECRACKERaJIGSAW PUZZLE PIECEaTEST TUBEaPETRI DISHaDNA wHELIXaCOMPASSaABACUS",
    "aFIRE EXTINGUISHERaTOOLBOXaBRICKaMAGNETaLUGGAGEaLOTION BOTTLEaSPOOL OF THREADaBALL OF YARN",
    "aSAFETY PINaTEDDY BEARaBROOMaBASKETaROLL OF PAPERaBAR OF SOAPaSPONGEaRECEIPTaNAZAR AMULET",
    "aNEUTRAL CHESS KINGcQUEENcROOKcBISHOPcKNIGHTcPAWN",
    "aWHITE CHESS KNIGHT ROTATED FORTY-FIVE DEGREES",
    "aBLACK CHESS KNIGHT ROTATED FORTY-FIVE DEGREES",
    "aNEUTRAL CHESS KNIGHT ROTATED FORTY-FIVE DEGREESaWHITE CHESS KING ROTATED NINETY DEGREES",
    "cQUEEN ROTATED NINETY DEGREEScROOK ROTATED NINETY DEGREEScBISHOP ROTATED NINETY DEGREES",
    "cKNIGHT ROTATED NINETY DEGREEScPAWN ROTATED NINETY DEGREES",
    "aBLACK CHESS KING ROTATED NINETY DEGREEScQUEEN ROTATED NINETY DEGREES",
    "cROOK ROTATED NINETY DEGREEScBISHOP ROTATED NINETY DEGREEScKNIGHT ROTATED NINETY DEGREES",
    "cPAWN ROTATED NINETY DEGREESaNEUTRAL CHESS KING ROTATED NINETY DEGREES",
    "cQUEEN ROTATED NINETY DEGREEScROOK ROTATED NINETY DEGREEScBISHOP ROTATED NINETY DEGREES",
    "cKNIGHT ROTATED NINETY DEGREEScPAWN ROTATED NINETY DEGREES",
    "aWHITE CHESS KNIGHT ROTATED ONE HUNDRED THIRTY-FIVE DEGREES",
    "aBLACK CHESS KNIGHT ROTATED ONE HUNDRED THIRTY-FIVE DEGREES",
    "aNEUTRAL CHESS KNIGHT ROTATED ONE HUNDRED THIRTY-FIVE DEGREESaWHITE CHESS TURNED KINGdQUEEN",
    "dROOKdBISHOPdKNIGHTdPAWNaBLACK CHESS TURNED KINGdQUEENdROOKdBISHOPdKNIGHTdPAWN",
    "aNEUTRAL CHESS TURNED KINGdQUEENdROOKdBISHOPdKNIGHTdPAWN",
    "aWHITE CHESS KNIGHT ROTATED TWO HUNDRED TWENTY-FIVE DEGREES",
    "aBLACK CHESS KNIGHT ROTATED TWO HUNDRED TWENTY-FIVE DEGREES",
    "aNEUTRAL CHESS KNIGHT ROTATED TWO HUNDRED TWENTY-FIVE DEGREES",
    "aWHITE CHESS KING ROTATED TWO HUNDRED SEVENTY DEGREES",
    "cQUEEN ROTATED TWO HUNDRED SEVENTY DEGREEScROOK ROTATED TWO HUNDRED SEVENTY DEGREES",
    "cBISHOP ROTATED TWO HUNDRED SEVENTY DEGREEScKNIGHT ROTATED TWO HUNDRED SEVENTY DEGREES",
    "cPAWN ROTATED TWO HUNDRED SEVENTY DEGREES",
    "aBLACK CHESS KING ROTATED TWO HUNDRED SEVENTY DEGREES",
    "cQUEEN ROTATED TWO HUNDRED SEVENTY DEGREEScROOK ROTATED TWO HUNDRED SEVENTY DEGREES",
    "cBISHOP ROTATED TWO HUNDRED SEVENTY DEGREEScKNIGHT ROTATED TWO HUNDRED SEVENTY DEGREES",
    "cPAWN ROTATED TWO HUNDRED SEVENTY DEGREES",
    "aNEUTRAL CHESS KING ROTATED TWO HUNDRED SEVENTY DEGREES",
    "cQUEEN ROTATED TWO HUNDRED SEVENTY DEGREEScROOK ROTATED TWO HUNDRED SEVENTY DEGREES",
    "cBISHOP ROTATED TWO HUNDRED SEVENTY DEGREEScKNIGHT ROTATED TWO HUNDRED SEVENTY DEGREES",
    "cPAWN ROTATED TWO HUNDRED SEVENTY DEGREES",
    "aWHITE CHESS KNIGHT ROTATED THREE HUNDRED FIFTEEN DEGREES",
    "aBLACK CHESS KNIGHT ROTATED THREE HUNDRED FIFTEEN DEGREES",
    "aNEUTRAL CHESS KNIGHT ROTATED THREE HUNDRED FIFTEEN DEGREESaWHITE CHESS EQUIHOPPER",
    "aBLACK CHESS EQUIHOPPERaNEUTRAL CHESS EQUIHOPPER",
    "aWHITE CHESS EQUIHOPPER ROTATED NINETY DEGREES",
    "aBLACK CHESS EQUIHOPPER ROTATED NINETY DEGREES",
    "aNEUTRAL CHESS EQUIHOPPER ROTATED NINETY DEGREESaWHITE CHESS KNIGHT-QUEENdROOKdBISHOP",
    "aBLACK CHESS KNIGHT-QUEENdROOKdBISHOP"]⟩,
  ⟨0x1fa60,
   ["aXIANGQI RED GENERALcMANDARINcELEPHANTcHORSEcCHARIOTcCANNONcSOLDIERbBLACK GENERALcMANDARIN",
    "cELEPHANTcHORSEcCHARIOTcCANNONcSOLDIER"]⟩,
  ⟨0x1fa70, ["aBALLET SHOESaONE-PIECE SWIMSUITaBRIEFSaSHORTSaTHONG SANDAL"]⟩,
  ⟨0x1fa78, ["aDROP OF BLOODaADHESIVE BANDAGEaSTETHOSCOPEaX-RAYaCRUTCH"]⟩,
  ⟨0x1fa80, ["aYO-YOaKITEaPARACHUTEaBOOMERANGaMAGIC WANDaPINATAaNESTING DOLLS"]⟩,
  ⟨0x1fa90,
   ["aRINGED PLANETaCHAIRaRAZORaAXEaDIYA LAMPaBANJOaMILITARY HELMETaACCORDIONaLONG DRUMaCOIN",
    "aCARPENTRY SAWaSCREWDRIVERaLADDERaHOOKaMIRRORaWINDOWaPLUNGERaSEWING NEEDLEaKNOTaBUCKET",
    "aMOUSE TRAPaTOOTHBRUSHaHEADSTONEaPLACARDaROCKaMIRROR BALLaIDENTIFICATION CARDaLOW BATTERY",
    "aHAMSA"]⟩,
  ⟨0x1fab0,
   ["aFLYaWORMaBEETLEaCOCKROACHaPOTTED PLANTaWOODaFEATHERaLOTUSaCORALaEMPTY NESTaNEST nEGGS"]⟩,
  ⟨0x1fac0, ["aANATOMICAL HEARTaLUNGSaPEOPLE HUGGINGaPREGNANT MANbPERSONaPERSON nCROWN"]⟩,
  ⟨0x1fad0,
   ["aBLUEBERRIESaBELL PEPPERaOLIVEaFLATBREADaTAMALEaFONDUEaTEAPOTaPOURING LIQUIDaBEANSaJAR"]⟩,
  ⟨0x1fae0,
   ["aMELTING FACEaSALUTING FACEaFACE nOPEN EYES tHAND OVER MOUTHcPEEKING EYEcDIAGONAL MOUTH",
    "aDOTTED LINE FACEaBITING LIPaBUBBLES"]⟩,
  ⟨0x1faf0,
   ["aHAND nINDEX FINGER tTHUMB CROSSEDavHANDaLEFTWARDS HANDaPALM DOWN HANDbUP HAND",
    "aINDEX POINTING AT THE VIEWERaHEART HANDS"]⟩,
  ⟨0x1fb00,
   ["aBLOCK SEXTANT-1c2c12c3c13c23c123c4c14c24c124c34c134c234c1234c5c15c25c125c35c235c1235c45",
    "c145c245c1245c345c1345c2345c12345c6c16c26c126c36c136c236c1236c46c146c1246c346c1346c2346",
    "c12346c56c156c256c1256c356c1356c2356c12356c456c1456c2456c12456c3456c13456c23456",
    "aLOWER xBLOCK DIAGONAL LOWER MIDDLE xTO LOWER CENTREjRIGHTeUPPER MIDDLE xTO LOWER CENTRE",
    "jRIGHTfxTO LOWER CENTREbuBLOCK DIAGONAL UPPER MIDDLE xTO UPPER CENTREjRIGHT",
    "eLOWER MIDDLE xTO UPPER CENTREjRIGHTfxTO UPPER CENTREfMIDDLE xTO UPPER MIDDLE RIGHT",
    "fCENTRE TO LOWER MIDDLE RIGHTfxTO LOWER MIDDLE RIGHTfCENTRE TO UPPER MIDDLE RIGHT",
    "fxTO UPPER MIDDLE RIGHTfCENTRE TO UPPER RIGHT",
    "bxBLOCK DIAGONAL UPPER CENTRE TO UPPER MIDDLE RIGHTfxTO UPPER MIDDLE RIGHT",
    "fCENTRE TO LOWER MIDDLE RIGHTfxTO LOWER MIDDLE RIGHTfCENTRE TO LOWER RIGHT",
    "fMIDDLE xTO LOWER MIDDLE RIGHTaUPPER uBLOCK DIAGONAL LOWER MIDDLE xTO LOWER CENTREjRIGHT",
    "eUPPER MIDDLE xTO LOWER CENTREjRIGHTfxTO LOWER CENTRE",
    "bxBLOCK DIAGONAL UPPER MIDDLE xTO UPPER CENTREjRIGHTeLOWER MIDDLE xTO UPPER CENTREjRIGHT",
    "fxTO UPPER CENTREfMIDDLE xTO UPPER MIDDLE RIGHTfCENTRE TO LOWER MIDDLE RIGHT",
    "fxTO LOWER MIDDLE RIGHTfCENTRE TO UPPER MIDDLE RIGHTfxTO UPPER MIDDLE RIGHT",
    "fCENTRE TO UPPER RIGHTbuBLOCK DIAGONAL UPPER CENTRE TO UPPER MIDDLE RIGHT",
    "fxTO UPPER MIDDLE RIGHTfCENTRE TO LOWER MIDDLE RIGHTfxTO LOWER MIDDLE RIGHT",
    "fCENTRE TO LOWER RIGHTfMIDDLE xTO LOWER MIDDLE RIGHT",
    "btutLOWER TRIANGULAR THREE QUARTERS BLOCKaxtLOWER tuTRIANGULAR THREE QUARTERS BLOCK",
    "aUPPER txtLOWER TRIANGULAR THREE QUARTERS BLOCKaxtUPPER tuTRIANGULAR THREE QUARTERS BLOCK",
    "bTRIANGULAR ONE QUARTER BLOCKaUPPER TRIANGULAR ONE QUARTER BLOCK",
    "auTRIANGULAR ONE QUARTER BLOCKaLOWER TRIANGULAR ONE QUARTER BLOCK",
    "aVERTICAL ONE EIGHTH BLOCK-2e3e4e5e6e7aHORIZONTAL ONE EIGHTH BLOCK-2e3e4e5e6e7",
    "axtLOWER ONE EIGHTH BLOCKcUPPER ONE EIGHTH BLOCKautUPPER ONE EIGHTH BLOCK",
    "cLOWER ONE EIGHTH BLOCKaUPPER tLOWER ONE EIGHTH BLOCKaHORIZONTAL ONE EIGHTH BLOCK-1358",
    "aUPPER ONE QUARTER BLOCKbTHREE EIGHTHS BLOCKbFIVE EIGHTHS BLOCKbTHREE QUARTERS BLOCK",
    "bSEVEN EIGHTHS BLOCKauONE QUARTER BLOCKbTHREE EIGHTHS BLOCKbFIVE EIGHTHS BLOCK",
    "bTHREE QUARTERS BLOCKbSEVEN EIGHTHS BLOCKaxHALF MEDIUM SHADEauHALF MEDIUM SHADE",
    "aUPPER HALF MEDIUM SHADEaLOWER HALF MEDIUM SHADEaINVERSE MEDIUM SHADE",
    "aUPPER HALF BLOCK tLOWER HALF INVERSE MEDIUM SHADEcINVERSE MEDIUM SHADE tLOWER HALF BLOCK"]⟩,
  ⟨0x1fb94,
   ["axHALF INVERSE MEDIUM SHADE tuHALF BLOCKaCHECKER BOARD FILLaINVERSE CHECKER BOARD FILL",
    "aHEAVY HORIZONTAL FILLaUPPER xTO LOWER uFILLbuTO LOWER xFILLbtLOWER TRIANGULAR HALF BLOCK",
    "axtuTRIANGULAR HALF BLOCKaUPPER xTRIANGULAR MEDIUM SHADEbuTRIANGULAR MEDIUM SHADE",
    "aLOWER uTRIANGULAR MEDIUM SHADEbxTRIANGULAR MEDIUM SHADE",
    "aBOX DRAWINGS LIGHT DIAGONAL UPPER CENTRE TO MIDDLE LEFTiRIGHTeMIDDLE xTO LOWER CENTRE",
    "fuTO LOWER CENTREeUPPER CENTRE TO MIDDLE xTO LOWER CENTREiuTO LOWER CENTRE",
    "eMIDDLE xTO LOWER CENTRE TO MIDDLE RIGHThUPPER CENTRE TO MIDDLE RIGHT",
    "eUPPER CENTRE TO MIDDLE xtMIDDLE uTO LOWER CENTREiutMIDDLE xTO LOWER CENTRE",
    "jTO LOWER CENTRE TO MIDDLE LEFTixTO LOWER CENTRE TO MIDDLE RIGHT",
    "eMIDDLE xTO UPPER CENTRE TO MIDDLE uTO LOWER CENTRE",
    "fuTO UPPER CENTRE TO MIDDLE xTO LOWER CENTREeDIAMONDdHORIZONTAL nVERTICAL STROKE",
    "aARROWHEAD-SHAPED POINTERaINVERSE CHECK MARKaxHALF RUNNING MANauHALF RUNNING MAN",
    "aINVERSE DOWNWARDS ARROW nTIP LEFTWARDSaLEFTWARDS ARROW tUPPER tLOWER ONE EIGHTH BLOCK",
    "avARROW tUPPER tLOWER ONE EIGHTH BLOCKaDOWNWARDS ARROW tuONE EIGHTH BLOCK",
    "aUPWARDS ARROW tuONE EIGHTH BLOCKaxHALF FOLDERauHALF FOLDERaVOIDED GREEK CROSS",
    "auOPEN SQUARED DOTaNEGATIVE DIAGONAL CROSScMIDDLE uTO LOWER CENTREcDIAMOND",
    "aWHITE HEAVY SALTIRE nROUNDED CORNERSaxTHIRD WHITE uPOINTING INDEX",
    "aMIDDLE THIRD WHITE uPOINTING INDEXauTHIRD WHITE uPOINTING INDEX",
    "aNEGATIVE SQUARED QUESTION MARKaSTICK FIGUREbFIGURE nARMS RAISEDcLEANING LEFTdRIGHTcnDRESS",
    "aWHITE UP-POINTING CHEVRON"]⟩,
  ⟨0x1fbf0, ["aSEGMENTED DIGIT ZEROcONEcTWOcTHREEcFOURcFIVEcSIXcSEVENcEIGHTcNINE"]⟩,
  ⟨0xe0001, ["aLANGUAGE TAG"]⟩,
  ⟨0xe0020,
   ["aTAG SPACEbEXCLAMATION MARKbQUOTATION MARKbNUMBER SIGNbDOLLAR SIGNbPERCENT SIGNbAMPERSAND",
    "bAPOSTROPHEbxPARENTHESISbuPARENTHESISbASTERISKbPLUS SIGNbCOMMAbHYPHEN-MINUSbFULL STOP",
    "bSOLIDUSbDIGIT ZEROcONEcTWOcTHREEcFOURcFIVEcSIXcSEVENcEIGHTcNINEbCOLONbSEMICOLON",
    "bLESS-THAN SIGNbEQUALS SIGNbGREATER-THAN SIGNbQUESTION MARKbCOMMERCIAL ATbLATIN omAeBeCeDeE",
    "eFeGeHeIeJeKeLeMeNeOePeQeReSeTeUeVeWeXeYeZbxSQUARE BRACKETbREVERSE SOLIDUSbuSQUARE BRACKET",
    "bCIRCUMFLEX ACCENTbLOW LINEbGRAVE ACCENTbLATIN pmAeBeCeDeEeFeGeHeIeJeKeLeMeNeOePeQeReSeTeU",
    "eVeWeXeYeZbxCURLY BRACKETbVERTICAL LINEbuCURLY BRACKETbTILDEaCANCEL TAG"]⟩,
  ⟨0xe0100,
   ["aVARIATION SELECTOR-17c18c19c20c21c22c23c24c25c26c27c28c29c30c31c32c33c34c35c36c37c38c39c40",
    "c41c42c43c44c45c46c47c48c49c50c51c52c53c54c55c56c57c58c59c60c61c62c63c64c65c66c67c68c69c70",
    "c71c72c73c74c75c76c77c78c79c80c81c82c83c84c85c86c87c88c89c90c91c92c93c94c95c96c97c98c99c100",
    "c101c102c103c104c105c106c107c108c109c110c111c112c113c114c115c116c117c118c119c120c121c122",
    "c123c124c125c126c127c128c129c130c131c132c133c134c135c136c137c138c139c140c141c142c143c144",
    "c145c146c147c148c149c150c151c152c153c154c155c156c157c158c159c160c161c162c163c164c165c166",
    "c167c168c169c170c171c172c173c174c175c176c177c178c179c180c181c182c183c184c185c186c187c188",
    "c189c190c191c192c193c194c195c196c197c198c199c200c201c202c203c204c205c206c207c208c209c210",
    "c211c212c213c214c215c216c217c218c219c220c221c222c223c224c225c226c227c228c229c230c231c232",
    "c233c234c235c236c237c238c239c240c241c242c243c244c245c246c247c248c249c250c251c252c253c254",
    "c255c256"]⟩]

end PhoneticCatalog.Text
