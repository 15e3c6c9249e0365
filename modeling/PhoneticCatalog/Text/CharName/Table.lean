/-!
# Names of characters: the tables

The names of the characters of Unicode 14.0 that are not made up from a number or from the sounds of
a syllable, in runs of code points that follow each other. Every name starts with a small letter,
from `a` on, that says how many words it keeps of the name before it: none, one, and so on up to
`l`. The other small letters stand for phrases that many names share. `letterNames` holds the names
below U+2000; those of other scripts and of signs are in the modules beside this one.
-/

namespace PhoneticCatalog.Text

/-- The names of a run of code points. -/
structure NameRun where
  first : Nat
  /-- The names in turn. Where a row ends does not matter. -/
  rows : List String

/-- The phrases that small letters stand for. -/
def namePhrases : List (Char × String) :=
  [('m', "LETTER "), ('n', "WITH "), ('o', "CAPITAL "), ('p', "SMALL "), ('q', "ISOLATED FORM"),
   ('r', "FINAL FORM"), ('s', "INITIAL FORM"), ('t', "AND "), ('u', "RIGHT "), ('v', "RIGHTWARDS "),
   ('w', "DOUBLE "), ('x', "LEFT "), ('y', "SIGN "), ('z', "ARROW")]

/-- Further names: those of control characters, abbreviations and corrected names. -/
def nameAliases : List (String × Nat) :=
  [("NULL", 0x0), ("NUL", 0x0), ("START OF HEADING", 0x1), ("SOH", 0x1), ("START OF TEXT", 0x2),
   ("STX", 0x2), ("END OF TEXT", 0x3), ("ETX", 0x3), ("END OF TRANSMISSION", 0x4), ("EOT", 0x4),
   ("ENQUIRY", 0x5), ("ENQ", 0x5), ("ACKNOWLEDGE", 0x6), ("ACK", 0x6), ("ALERT", 0x7), ("BEL", 0x7),
   ("BACKSPACE", 0x8), ("BS", 0x8), ("CHARACTER TABULATION", 0x9), ("HORIZONTAL TABULATION", 0x9),
   ("HT", 0x9), ("TAB", 0x9), ("LINE FEED", 0xa), ("NEW LINE", 0xa), ("END OF LINE", 0xa),
   ("LF", 0xa), ("NL", 0xa), ("EOL", 0xa), ("LINE TABULATION", 0xb), ("VERTICAL TABULATION", 0xb),
   ("VT", 0xb), ("FORM FEED", 0xc), ("FF", 0xc), ("CARRIAGE RETURN", 0xd), ("CR", 0xd),
   ("SHIFT OUT", 0xe), ("LOCKING-SHIFT ONE", 0xe), ("SO", 0xe), ("SHIFT IN", 0xf),
   ("LOCKING-SHIFT ZERO", 0xf), ("SI", 0xf), ("DATA LINK ESCAPE", 0x10), ("DLE", 0x10),
   ("DEVICE CONTROL ONE", 0x11), ("DC1", 0x11), ("DEVICE CONTROL TWO", 0x12), ("DC2", 0x12),
   ("DEVICE CONTROL THREE", 0x13), ("DC3", 0x13), ("DEVICE CONTROL FOUR", 0x14), ("DC4", 0x14),
   ("NEGATIVE ACKNOWLEDGE", 0x15), ("NAK", 0x15), ("SYNCHRONOUS IDLE", 0x16), ("SYN", 0x16),
   ("END OF TRANSMISSION BLOCK", 0x17), ("ETB", 0x17), ("CANCEL", 0x18), ("CAN", 0x18),
   ("END OF MEDIUM", 0x19), ("EOM", 0x19), ("SUBSTITUTE", 0x1a), ("SUB", 0x1a), ("ESCAPE", 0x1b),
   ("ESC", 0x1b), ("INFORMATION SEPARATOR FOUR", 0x1c), ("FILE SEPARATOR", 0x1c), ("FS", 0x1c),
   ("INFORMATION SEPARATOR THREE", 0x1d), ("GROUP SEPARATOR", 0x1d), ("GS", 0x1d),
   ("INFORMATION SEPARATOR TWO", 0x1e), ("RECORD SEPARATOR", 0x1e), ("RS", 0x1e),
   ("INFORMATION SEPARATOR ONE", 0x1f), ("UNIT SEPARATOR", 0x1f), ("US", 0x1f), ("SP", 0x20),
   ("DELETE", 0x7f), ("DEL", 0x7f), ("PADDING CHARACTER", 0x80), ("PAD", 0x80),
   ("HIGH OCTET PRESET", 0x81), ("HOP", 0x81), ("BREAK PERMITTED HERE", 0x82), ("BPH", 0x82),
   ("NO BREAK HERE", 0x83), ("NBH", 0x83), ("INDEX", 0x84), ("IND", 0x84), ("NEXT LINE", 0x85),
   ("NEL", 0x85), ("START OF SELECTED AREA", 0x86), ("SSA", 0x86), ("END OF SELECTED AREA", 0x87),
   ("ESA", 0x87), ("CHARACTER TABULATION SET", 0x88), ("HORIZONTAL TABULATION SET", 0x88),
   ("HTS", 0x88), ("CHARACTER TABULATION WITH JUSTIFICATION", 0x89),
   ("HORIZONTAL TABULATION WITH JUSTIFICATION", 0x89), ("HTJ", 0x89), ("LINE TABULATION SET", 0x8a),
   ("VERTICAL TABULATION SET", 0x8a), ("VTS", 0x8a), ("PARTIAL LINE FORWARD", 0x8b),
   ("PARTIAL LINE DOWN", 0x8b), ("PLD", 0x8b), ("PARTIAL LINE BACKWARD", 0x8c),
   ("PARTIAL LINE UP", 0x8c), ("PLU", 0x8c), ("REVERSE LINE FEED", 0x8d), ("REVERSE INDEX", 0x8d),
   ("RI", 0x8d), ("SINGLE SHIFT TWO", 0x8e), ("SINGLE-SHIFT-2", 0x8e), ("SS2", 0x8e),
   ("SINGLE SHIFT THREE", 0x8f), ("SINGLE-SHIFT-3", 0x8f), ("SS3", 0x8f),
   ("DEVICE CONTROL STRING", 0x90), ("DCS", 0x90), ("PRIVATE USE ONE", 0x91),
   ("PRIVATE USE-1", 0x91), ("PU1", 0x91), ("PRIVATE USE TWO", 0x92), ("PRIVATE USE-2", 0x92),
   ("PU2", 0x92), ("SET TRANSMIT STATE", 0x93), ("STS", 0x93), ("CANCEL CHARACTER", 0x94),
   ("CCH", 0x94), ("MESSAGE WAITING", 0x95), ("MW", 0x95), ("START OF GUARDED AREA", 0x96),
   ("START OF PROTECTED AREA", 0x96), ("SPA", 0x96), ("END OF GUARDED AREA", 0x97),
   ("END OF PROTECTED AREA", 0x97), ("EPA", 0x97), ("START OF STRING", 0x98), ("SOS", 0x98),
   ("SINGLE GRAPHIC CHARACTER INTRODUCER", 0x99), ("SGC", 0x99),
   ("SINGLE CHARACTER INTRODUCER", 0x9a), ("SCI", 0x9a), ("CONTROL SEQUENCE INTRODUCER", 0x9b),
   ("CSI", 0x9b), ("STRING TERMINATOR", 0x9c), ("ST", 0x9c), ("OPERATING SYSTEM COMMAND", 0x9d),
   ("OSC", 0x9d), ("PRIVACY MESSAGE", 0x9e), ("PM", 0x9e), ("APPLICATION PROGRAM COMMAND", 0x9f),
   ("APC", 0x9f), ("NBSP", 0xa0), ("SHY", 0xad), ("LATIN CAPITAL LETTER GHA", 0x1a2),
   ("LATIN SMALL LETTER GHA", 0x1a3), ("CGJ", 0x34f), ("ALM", 0x61c),
   ("SYRIAC SUBLINEAR COLON SKEWED LEFT", 0x709), ("KANNADA LETTER LLLA", 0xcde),
   ("LAO LETTER FO FON", 0xe9d), ("LAO LETTER FO FAY", 0xe9f), ("LAO LETTER RO", 0xea3),
   ("LAO LETTER LO", 0xea5), ("TIBETAN MARK BKA- SHOG GI MGO RGYAN", 0xfd0),
   ("HANGUL JONGSEONG YESIEUNG-KIYEOK", 0x11ec), ("HANGUL JONGSEONG YESIEUNG-SSANGKIYEOK", 0x11ed),
   ("HANGUL JONGSEONG SSANGYESIEUNG", 0x11ee), ("HANGUL JONGSEONG YESIEUNG-KHIEUKH", 0x11ef),
   ("FVS1", 0x180b), ("FVS2", 0x180c), ("FVS3", 0x180d), ("MVS", 0x180e), ("FVS4", 0x180f),
   ("ZWSP", 0x200b), ("ZWNJ", 0x200c), ("ZWJ", 0x200d), ("LRM", 0x200e), ("RLM", 0x200f),
   ("LRE", 0x202a), ("RLE", 0x202b), ("PDF", 0x202c), ("LRO", 0x202d), ("RLO", 0x202e),
   ("NNBSP", 0x202f), ("MMSP", 0x205f), ("WJ", 0x2060), ("LRI", 0x2066), ("RLI", 0x2067),
   ("FSI", 0x2068), ("PDI", 0x2069), ("WEIERSTRASS ELLIPTIC FUNCTION", 0x2118),
   ("MICR ON US SYMBOL", 0x2448), ("MICR DASH SYMBOL", 0x2449),
   ("LEFTWARDS TRIANGLE-HEADED ARROW WITH DOUBLE VERTICAL STROKE", 0x2b7a),
   ("RIGHTWARDS TRIANGLE-HEADED ARROW WITH DOUBLE VERTICAL STROKE", 0x2b7c),
   ("YI SYLLABLE ITERATION MARK", 0xa015), ("MYANMAR LETTER KHAMTI LLA", 0xaa6e),
   ("PRESENTATION FORM FOR VERTICAL RIGHT WHITE LENTICULAR BRACKET", 0xfe18),
   ("BYTE ORDER MARK", 0xfeff), ("BOM", 0xfeff), ("ZWNBSP", 0xfeff),
   ("CUNEIFORM SIGN NU11 TENU", 0x122d4), ("CUNEIFORM SIGN NU11 OVER NU11 BUR OVER BUR", 0x122d5),
   ("MEDEFAIDRIN CAPITAL LETTER H", 0x16e56), ("MEDEFAIDRIN CAPITAL LETTER NG", 0x16e57),
   ("MEDEFAIDRIN SMALL LETTER H", 0x16e76), ("MEDEFAIDRIN SMALL LETTER NG", 0x16e77),
   ("HENTAIGANA LETTER E-1", 0x1b001),
   ("BYZANTINE MUSICAL SYMBOL FTHORA SKLIRON CHROMA VASIS", 0x1d0c5)]

/-- The names of letters, marks and signs below U+2000. -/
def letterNames : List NameRun := [
  ⟨0x20,
   ["aSPACEaEXCLAMATION MARKaQUOTATION MARKaNUMBER SIGNaDOLLAR SIGNaPERCENT SIGNaAMPERSAND",
    "aAPOSTROPHEaxPARENTHESISauPARENTHESISaASTERISKaPLUS SIGNaCOMMAaHYPHEN-MINUSaFULL STOP",
    "aSOLIDUSaDIGIT ZERObONEbTWObTHREEbFOURbFIVEbSIXbSEVENbEIGHTbNINEaCOLONaSEMICOLON",
    "aLESS-THAN SIGNaEQUALS SIGNaGREATER-THAN SIGNaQUESTION MARKaCOMMERCIAL ATaLATIN omAdBdCdDdE",
    "dFdGdHdIdJdKdLdMdNdOdPdQdRdSdTdUdVdWdXdYdZaxSQUARE BRACKETaREVERSE SOLIDUSauSQUARE BRACKET",
    "aCIRCUMFLEX ACCENTaLOW LINEaGRAVE ACCENTaLATIN pmAdBdCdDdEdFdGdHdIdJdKdLdMdNdOdPdQdRdSdTdU",
    "dVdWdXdYdZaxCURLY BRACKETaVERTICAL LINEauCURLY BRACKETaTILDE"]⟩,
  ⟨0xa0,
   ["aNO-BREAK SPACEaINVERTED EXCLAMATION MARKaCENT SIGNaPOUND SIGNaCURRENCY SIGNaYEN SIGN",
    "aBROKEN BARaSECTION SIGNaDIAERESISaCOPYRIGHT SIGNaFEMININE ORDINAL INDICATOR",
    "aLEFT-POINTING wANGLE QUOTATION MARKaNOT SIGNaSOFT HYPHENaREGISTERED SIGNaMACRON",
    "aDEGREE SIGNaPLUS-MINUS SIGNaSUPERSCRIPT TWObTHREEaACUTE ACCENTaMICRO SIGNaPILCROW SIGN",
    "aMIDDLE DOTaCEDILLAaSUPERSCRIPT ONEaMASCULINE ORDINAL INDICATOR",
    "aRIGHT-POINTING wANGLE QUOTATION MARKaVULGAR FRACTION ONE QUARTERdHALFcTHREE QUARTERS",
    "aINVERTED QUESTION MARKaLATIN omA nGRAVEfACUTEfCIRCUMFLEXfTILDEfDIAERESISfRING ABOVEdAE",
    "dC nCEDILLAdE nGRAVEfACUTEfCIRCUMFLEXfDIAERESISdI nGRAVEfACUTEfCIRCUMFLEXfDIAERESISdETH",
    "dN nTILDEdO nGRAVEfACUTEfCIRCUMFLEXfTILDEfDIAERESISaMULTIPLICATION SIGNaLATIN omO nSTROKE",
    "dU nGRAVEfACUTEfCIRCUMFLEXfDIAERESISdY nACUTEdTHORNbpmSHARP SdA nGRAVEfACUTEfCIRCUMFLEX",
    "fTILDEfDIAERESISfRING ABOVEdAEdC nCEDILLAdE nGRAVEfACUTEfCIRCUMFLEXfDIAERESISdI nGRAVE",
    "fACUTEfCIRCUMFLEXfDIAERESISdETHdN nTILDEdO nGRAVEfACUTEfCIRCUMFLEXfTILDEfDIAERESIS",
    "aDIVISION SIGNaLATIN pmO nSTROKEdU nGRAVEfACUTEfCIRCUMFLEXfDIAERESISdY nACUTEdTHORN",
    "dY nDIAERESISbomA nMACRONbpmA nMACRONbomA nBREVEbpmA nBREVEbomA nOGONEKbpmA nOGONEK",
    "bomC nACUTEbpmC nACUTEbomC nCIRCUMFLEXbpmC nCIRCUMFLEXbomC nDOT ABOVEbpmC nDOT ABOVE",
    "bomC nCARONbpmC nCARONbomD nCARONbpmD nCARONbomD nSTROKEbpmD nSTROKEbomE nMACRON",
    "bpmE nMACRONbomE nBREVEbpmE nBREVEbomE nDOT ABOVEbpmE nDOT ABOVEbomE nOGONEKbpmE nOGONEK",
    "bomE nCARONbpmE nCARONbomG nCIRCUMFLEXbpmG nCIRCUMFLEXbomG nBREVEbpmG nBREVEbomG nDOT ABOVE",
    "bpmG nDOT ABOVEbomG nCEDILLAbpmG nCEDILLAbomH nCIRCUMFLEXbpmH nCIRCUMFLEXbomH nSTROKE",
    "bpmH nSTROKEbomI nTILDEbpmI nTILDEbomI nMACRONbpmI nMACRONbomI nBREVEbpmI nBREVE",
    "bomI nOGONEKbpmI nOGONEKbomI nDOT ABOVEbpmDOTLESS IboLIGATURE IJbpLIGATURE IJ",
    "bomJ nCIRCUMFLEXbpmJ nCIRCUMFLEXbomK nCEDILLAbpmK nCEDILLAdKRAbomL nACUTEbpmL nACUTE",
    "bomL nCEDILLAbpmL nCEDILLAbomL nCARONbpmL nCARONbomL nMIDDLE DOTbpmL nMIDDLE DOT",
    "bomL nSTROKEbpmL nSTROKEbomN nACUTEbpmN nACUTEbomN nCEDILLAbpmN nCEDILLAbomN nCARON",
    "bpmN nCARONePRECEDED BY APOSTROPHEbomENGbpmENGbomO nMACRONbpmO nMACRONbomO nBREVE",
    "bpmO nBREVEbomO nwACUTEbpmO nwACUTEboLIGATURE OEbpLIGATURE OEbomR nACUTEbpmR nACUTE",
    "bomR nCEDILLAbpmR nCEDILLAbomR nCARONbpmR nCARONbomS nACUTEbpmS nACUTEbomS nCIRCUMFLEX",
    "bpmS nCIRCUMFLEXbomS nCEDILLAbpmS nCEDILLAbomS nCARONbpmS nCARONbomT nCEDILLAbpmT nCEDILLA",
    "bomT nCARONbpmT nCARONbomT nSTROKEbpmT nSTROKEbomU nTILDEbpmU nTILDEbomU nMACRON",
    "bpmU nMACRONbomU nBREVEbpmU nBREVEbomU nRING ABOVEbpmU nRING ABOVEbomU nwACUTEbpmU nwACUTE",
    "bomU nOGONEKbpmU nOGONEKbomW nCIRCUMFLEXbpmW nCIRCUMFLEXbomY nCIRCUMFLEXbpmY nCIRCUMFLEX",
    "bomY nDIAERESISdZ nACUTEbpmZ nACUTEbomZ nDOT ABOVEbpmZ nDOT ABOVEbomZ nCARONbpmZ nCARON",
    "dLONG SdB nSTROKEbomB nHOOKfTOPBARbpmB nTOPBARbomTONE SIXbpmTONE SIXbomOPEN OdC nHOOK",
    "bpmC nHOOKbomAFRICAN DdD nHOOKfTOPBARbpmD nTOPBARdTURNED DELTAbomREVERSED EdSCHWAdOPEN E",
    "dF nHOOKbpmF nHOOKbomG nHOOKdGAMMAbpmHVbomIOTAdI nSTROKEdK nHOOKbpmK nHOOKdL nBAR",
    "dLAMBDA nSTROKEbomTURNED MdN nxHOOKbpmN nLONG uLEGbomO nMIDDLE TILDEfHORNbpmO nHORNbomOI",
    "bpmOIbomP nHOOKbpmP nHOOKbmYRbomTONE TWObpmTONE TWObomESHbmREVERSED ESH LOOP",
    "bpmT nPALATAL HOOKbomT nHOOKbpmT nHOOKbomT nRETROFLEX HOOKdU nHORNbpmU nHORNbomUPSILON",
    "dV nHOOKdY nHOOKbpmY nHOOKbomZ nSTROKEbpmZ nSTROKEbomEZHdEZH REVERSEDbpmEZH REVERSEDenTAIL",
    "bmTWO nSTROKEbomTONE FIVEbpmTONE FIVEbmINVERTED GLOTTAL STOP nSTROKEcWYNNcDENTAL CLICK",
    "cLATERAL CLICKcALVEOLAR CLICKcRETROFLEX CLICKbomDZ nCARONdD npmZ nCARONbpmDZ nCARONbomLJ",
    "dL npmJbpmLJbomNJdN npmJbpmNJbomA nCARONbpmA nCARONbomI nCARONbpmI nCARONbomO nCARON",
    "bpmO nCARONbomU nCARONbpmU nCARONbomU nDIAERESIS tMACRONbpmU nDIAERESIS tMACRON",
    "bomU nDIAERESIS tACUTEbpmU nDIAERESIS tACUTEbomU nDIAERESIS tCARONbpmU nDIAERESIS tCARON",
    "bomU nDIAERESIS tGRAVEbpmU nDIAERESIS tGRAVEdTURNED EbomA nDIAERESIS tMACRON",
    "bpmA nDIAERESIS tMACRONbomA nDOT ABOVE tMACRONbpmA nDOT ABOVE tMACRONbomAE nMACRON",
    "bpmAE nMACRONbomG nSTROKEbpmG nSTROKEbomG nCARONbpmG nCARONbomK nCARONbpmK nCARON",
    "bomO nOGONEKbpmO nOGONEKbomO nOGONEK tMACRONbpmO nOGONEK tMACRONbomEZH nCARONbpmEZH nCARON",
    "dJ nCARONbomDZdD npmZbpmDZbomG nACUTEbpmG nACUTEbomHWAIRdWYNNdN nGRAVEbpmN nGRAVE",
    "bomA nRING ABOVE tACUTEbpmA nRING ABOVE tACUTEbomAE nACUTEbpmAE nACUTEbomO nSTROKE tACUTE",
    "bpmO nSTROKE tACUTEbomA nwGRAVEbpmA nwGRAVEbomA nINVERTED BREVEbpmA nINVERTED BREVE",
    "bomE nwGRAVEbpmE nwGRAVEbomE nINVERTED BREVEbpmE nINVERTED BREVEbomI nwGRAVEbpmI nwGRAVE",
    "bomI nINVERTED BREVEbpmI nINVERTED BREVEbomO nwGRAVEbpmO nwGRAVEbomO nINVERTED BREVE",
    "bpmO nINVERTED BREVEbomR nwGRAVEbpmR nwGRAVEbomR nINVERTED BREVEbpmR nINVERTED BREVE",
    "bomU nwGRAVEbpmU nwGRAVEbomU nINVERTED BREVEbpmU nINVERTED BREVEbomS nCOMMA BELOW",
    "bpmS nCOMMA BELOWbomT nCOMMA BELOWbpmT nCOMMA BELOWbomYOGHbpmYOGHbomH nCARONbpmH nCARON",
    "bomN nLONG uLEGbpmD nCURLbomOUbpmOUbomZ nHOOKbpmZ nHOOKbomA nDOT ABOVEbpmA nDOT ABOVE",
    "bomE nCEDILLAbpmE nCEDILLAbomO nDIAERESIS tMACRONbpmO nDIAERESIS tMACRONbomO nTILDE tMACRON",
    "bpmO nTILDE tMACRONbomO nDOT ABOVEbpmO nDOT ABOVEbomO nDOT ABOVE tMACRON",
    "bpmO nDOT ABOVE tMACRONbomY nMACRONbpmY nMACRONdL nCURLdN nCURLdT nCURLdDOTLESS J",
    "dDB DIGRAPHdQP DIGRAPHbomA nSTROKEdC nSTROKEbpmC nSTROKEbomL nBARdT nDIAGONAL STROKE",
    "bpmS nSWASH TAILdZ nSWASH TAILbomGLOTTAL STOPbpmGLOTTAL STOPbomB nSTROKEdU BARdTURNED V",
    "dE nSTROKEbpmE nSTROKEbomJ nSTROKEbpmJ nSTROKEbompQ nHOOK TAILbpmQ nHOOK TAILbomR nSTROKE",
    "bpmR nSTROKEbomY nSTROKEbpmY nSTROKEdTURNED AdALPHAdTURNED ALPHAdB nHOOKdOPEN OdC nCURL",
    "dD nTAILfHOOKdREVERSED EdSCHWAdSCHWA nHOOKdOPEN EdREVERSED OPEN EfE nHOOK",
    "dCLOSED REVERSED OPEN EdDOTLESS J nSTROKEdG nHOOKdSCRIPT GbmpoGbpmGAMMAdRAMS HORNdTURNED H",
    "dH nHOOKdHENG nHOOKdI nSTROKEdIOTAbmpoIbpmL nMIDDLE TILDEfBELTfRETROFLEX HOOKdLEZHdTURNED M",
    "eM nLONG LEGdM nHOOKdN nxHOOKfRETROFLEX HOOKbmpoNbpmBARRED ObmpoOEbpmCLOSED OMEGAdPHI",
    "dTURNED ReR nLONG LEGgHOOKdR nLONG LEGfTAILfFISHHOOKdREVERSED R nFISHHOOKbmpoReINVERTED R",
    "bpmS nHOOKdESHdDOTLESS J nSTROKE tHOOKdSQUAT REVERSED ESHdESH nCURLdTURNED T",
    "dT nRETROFLEX HOOKdU BARdUPSILONdV nHOOKdTURNED VeWeYbmpoYbpmZ nRETROFLEX HOOKfCURLdEZH",
    "dEZH nCURLbmGLOTTAL STOPcPHARYNGEAL VOICED FRICATIVEcINVERTED GLOTTAL STOPcSTRETCHED C",
    "cBILABIAL CLICKcpoBbpmCLOSED OPEN EbmpoG nHOOKeHbpmJ nCROSSED-TAILdTURNED KbmpoLbpmQ nHOOK",
    "bmGLOTTAL STOP nSTROKEcREVERSED GLOTTAL STOP nSTROKEbpmDZ DIGRAPHdDEZH DIGRAPH",
    "dDZ DIGRAPH nCURLdTS DIGRAPHdTESH DIGRAPHdTC DIGRAPH nCURLdFENG DIGRAPHdLS DIGRAPH",
    "dLZ DIGRAPHbmBILABIAL PERCUSSIVEcBIDENTAL PERCUSSIVEbpmTURNED H nFISHHOOKgFISHHOOK tTAIL",
    "aMODIFIER mpHdH nHOOKdJdRdTURNED ReR nHOOKdoINVERTED RdWdYcPRIMEcwPRIMEcTURNED COMMA",
    "cAPOSTROPHEcREVERSED COMMAcuHALF RINGcxHALF RINGcGLOTTAL STOPcREVERSED GLOTTAL STOP",
    "cxARROWHEADcuARROWHEADcUP ARROWHEADcDOWN ARROWHEADcCIRCUMFLEX ACCENTaCARON",
    "aMODIFIER mVERTICAL LINEcMACRONcACUTE ACCENTcGRAVE ACCENTcLOW VERTICAL LINEdMACRON",
    "dGRAVE ACCENTdACUTE ACCENTcTRIANGULAR COLONcHALF TRIANGULAR COLONcCENTRED uHALF RING",
    "dxHALF RINGcUP TACKcDOWN TACKcPLUS SIGNcMINUS SIGNaBREVEaDOT ABOVEaRING ABOVEaOGONEKapTILDE",
    "awACUTE ACCENTaMODIFIER mRHOTIC HOOKcCROSS ACCENTcpGAMMAdLdSdXdREVERSED GLOTTAL STOP",
    "cEXTRA-HIGH TONE BARcHIGH TONE BARcMID TONE BARcLOW TONE BARcEXTRA-LOW TONE BAR",
    "cYIN DEPARTING TONE MARKcYANG DEPARTING TONE MARKcVOICINGcUNASPIRATEDcwAPOSTROPHE",
    "cLOW DOWN ARROWHEADdUP ARROWHEADdxARROWHEADduARROWHEADdRINGcMIDDLE GRAVE ACCENT",
    "dwGRAVE ACCENTeACUTE ACCENTcLOW TILDEcRAISED COLONcBEGIN HIGH TONEcEND HIGH TONE",
    "cBEGIN LOW TONEcEND LOW TONEcSHELFcOPEN SHELFcLOW xzaCOMBINING GRAVE ACCENTbACUTE ACCENT",
    "bCIRCUMFLEX ACCENTbTILDEbMACRONbOVERLINEbBREVEbDOT ABOVEbDIAERESISbHOOK ABOVEbRING ABOVE",
    "bwACUTE ACCENTbCARONbVERTICAL LINE ABOVEbwVERTICAL LINE ABOVEcGRAVE ACCENTbCANDRABINDU",
    "bINVERTED BREVEbTURNED COMMA ABOVEbCOMMA ABOVEbREVERSED COMMA ABOVEbCOMMA ABOVE RIGHT",
    "bGRAVE ACCENT BELOWbACUTE ACCENT BELOWbxTACK BELOWbuTACK BELOWbxANGLE ABOVEbHORN",
    "bxHALF RING BELOWbUP TACK BELOWbDOWN TACK BELOWbPLUS yBELOWbMINUS yBELOW",
    "bPALATALIZED HOOK BELOWbRETROFLEX HOOK BELOWbDOT BELOWbDIAERESIS BELOWbRING BELOW",
    "bCOMMA BELOWbCEDILLAbOGONEKbVERTICAL LINE BELOWbBRIDGE BELOWbINVERTED wARCH BELOW",
    "bCARON BELOWbCIRCUMFLEX ACCENT BELOWbBREVE BELOWbINVERTED BREVE BELOWbTILDE BELOW",
    "bMACRON BELOWbLOW LINEbwLOW LINEbTILDE OVERLAYbSHORT STROKE OVERLAYbLONG STROKE OVERLAY",
    "bSHORT SOLIDUS OVERLAYbLONG SOLIDUS OVERLAYbuHALF RING BELOWbINVERTED BRIDGE BELOW",
    "bSQUARE BELOWbSEAGULL BELOWbX ABOVEbVERTICAL TILDEbwOVERLINEbGRAVE TONE MARK",
    "bACUTE TONE MARKbGREEK PERISPOMENIcKORONIScDIALYTIKA TONOScYPOGEGRAMMENIbBRIDGE ABOVE",
    "bEQUALS yBELOWbwVERTICAL LINE BELOWbxANGLE BELOWbNOT TILDE ABOVEbHOMOTHETIC ABOVE",
    "bALMOST EQUAL TO ABOVEbxuARROW BELOWbUPWARDS ARROW BELOWbGRAPHEME JOINERbuARROWHEAD ABOVE",
    "bxHALF RING ABOVEbFERMATAbX BELOWbxARROWHEAD BELOWbuARROWHEAD BELOWdtUP ARROWHEAD BELOW",
    "cHALF RING ABOVEbDOT ABOVE RIGHTbASTERISK BELOWbwRING BELOWbZIGZAG ABOVEbwBREVE BELOWcBREVE",
    "cMACRONcMACRON BELOWcTILDEcINVERTED BREVEcvARROW BELOWbLATIN pmAeEeIeOeUeCeDeHeMeReTeVeX",
    "aGREEK omHETAbpmHETAbomARCHAIC SAMPIbpmARCHAIC SAMPIbNUMERAL SIGNbLOWER NUMERAL SIGN",
    "bomPAMPHYLIAN DIGAMMAbpmPAMPHYLIAN DIGAMMA"]⟩,
  ⟨0x37a,
   ["aGREEK YPOGEGRAMMENIbpREVERSED LUNATE SIGMA SYMBOLcDOTTED LUNATE SIGMA SYMBOL",
    "cREVERSED DOTTED LUNATE SIGMA SYMBOLbQUESTION MARKbomYOT"]⟩,
  ⟨0x384,
   ["aGREEK TONOSbDIALYTIKA TONOSbomALPHA nTONOSbANO TELEIAbomEPSILON nTONOSdETA nTONOS",
    "dIOTA nTONOS"]⟩,
  ⟨0x38c, ["aGREEK omOMICRON nTONOS"]⟩,
  ⟨0x38e,
   ["aGREEK omUPSILON nTONOSdOMEGA nTONOSbpmIOTA nDIALYTIKA tTONOSbomALPHAdBETAdGAMMAdDELTA",
    "dEPSILONdZETAdETAdTHETAdIOTAdKAPPAdLAMDAdMUdNUdXIdOMICRONdPIdRHO"]⟩,
  ⟨0x3a3,
   ["aGREEK omSIGMAdTAUdUPSILONdPHIdCHIdPSIdOMEGAdIOTA nDIALYTIKAdUPSILON nDIALYTIKA",
    "bpmALPHA nTONOSdEPSILON nTONOSdETA nTONOSdIOTA nTONOSdUPSILON nDIALYTIKA tTONOSdALPHAdBETA",
    "dGAMMAdDELTAdEPSILONdZETAdETAdTHETAdIOTAdKAPPAdLAMDAdMUdNUdXIdOMICRONdPIdRHOdFINAL SIGMA",
    "dSIGMAdTAUdUPSILONdPHIdCHIdPSIdOMEGAdIOTA nDIALYTIKAdUPSILON nDIALYTIKAdOMICRON nTONOS",
    "dUPSILON nTONOSdOMEGA nTONOSboKAI SYMBOLbBETA SYMBOLbTHETA SYMBOLbUPSILON nHOOK SYMBOL",
    "dACUTE tHOOK SYMBOLdDIAERESIS tHOOK SYMBOLbPHI SYMBOLbPI SYMBOLbKAI SYMBOLbmARCHAIC KOPPA",
    "bpmARCHAIC KOPPAbmSTIGMAbpmSTIGMAbmDIGAMMAbpmDIGAMMAbmKOPPAbpmKOPPAbmSAMPIbpmSAMPI",
    "aCOPTIC omSHEIbpmSHEIbomFEIbpmFEIbomKHEIbpmKHEIbomHORIbpmHORIbomGANGIAbpmGANGIAbomSHIMA",
    "bpmSHIMAbomDEIbpmDEIaGREEK KAPPA SYMBOLbRHO SYMBOLbLUNATE SIGMA SYMBOLbmYOTboTHETA SYMBOL",
    "bLUNATE EPSILON SYMBOLbREVERSED LUNATE EPSILON SYMBOLbomSHObpmSHOboLUNATE SIGMA SYMBOLcmSAN",
    "bpmSANbRHO nSTROKE SYMBOLboREVERSED LUNATE SIGMA SYMBOLcDOTTED LUNATE SIGMA SYMBOL",
    "cREVERSED DOTTED LUNATE SIGMA SYMBOLaCYRILLIC omIE nGRAVEdIOdDJEdGJEdUKRAINIAN IEdDZE",
    "dBYELORUSSIAN-UKRAINIAN IdYIdJEdLJEdNJEdTSHEdKJEdI nGRAVEdSHORT UdDZHEdAdBEdVEdGHEdDEdIE",
    "dZHEdZEdIdSHORT IdKAdELdEMdENdOdPEdERdESdTEdUdEFdHAdTSEdCHEdSHAdSHCHAdHARD SIGNdYERU",
    "dSOFT SIGNdEdYUdYAbpmAdBEdVEdGHEdDEdIEdZHEdZEdIdSHORT IdKAdELdEMdENdOdPEdERdESdTEdUdEFdHA",
    "dTSEdCHEdSHAdSHCHAdHARD SIGNdYERUdSOFT SIGNdEdYUdYAdIE nGRAVEdIOdDJEdGJEdUKRAINIAN IEdDZE",
    "dBYELORUSSIAN-UKRAINIAN IdYIdJEdLJEdNJEdTSHEdKJEdI nGRAVEdSHORT UdDZHEbomOMEGAbpmOMEGA",
    "bomYATbpmYATbomIOTIFIED EbpmIOTIFIED EbomLITTLE YUSbpmLITTLE YUSbomIOTIFIED LITTLE YUS",
    "bpmIOTIFIED LITTLE YUSbomBIG YUSbpmBIG YUSbomIOTIFIED BIG YUSbpmIOTIFIED BIG YUSbomKSI",
    "bpmKSIbomPSIbpmPSIbomFITAbpmFITAbomIZHITSAbpmIZHITSAbomIZHITSA nwGRAVE ACCENT",
    "bpmIZHITSA nwGRAVE ACCENTbomUKbpmUKbomROUND OMEGAbpmROUND OMEGAbomOMEGA nTITLO",
    "bpmOMEGA nTITLObomOTbpmOTbomKOPPAbpmKOPPAbTHOUSANDS SIGNaCOMBINING CYRILLIC TITLO",
    "cPALATALIZATIONcDASIA PNEUMATAcPSILI PNEUMATAcPOKRYTIEcHUNDRED THOUSANDS SIGNcMILLIONS SIGN",
    "aCYRILLIC omSHORT I nTAILbpmSHORT I nTAILbomSEMISOFT SIGNbpmSEMISOFT SIGNbomER nTICK",
    "bpmER nTICKbomGHE nUPTURNbpmGHE nUPTURNbomGHE nSTROKEbpmGHE nSTROKEbomGHE nMIDDLE HOOK",
    "bpmGHE nMIDDLE HOOKbomZHE nDESCENDERbpmZHE nDESCENDERbomZE nDESCENDERbpmZE nDESCENDER",
    "bomKA nDESCENDERbpmKA nDESCENDERbomKA nVERTICAL STROKEbpmKA nVERTICAL STROKEbomKA nSTROKE",
    "bpmKA nSTROKEbomBASHKIR KAbpmBASHKIR KAbomEN nDESCENDERbpmEN nDESCENDERboLIGATURE EN GHE",
    "bpLIGATURE EN GHEbomPE nMIDDLE HOOKbpmPE nMIDDLE HOOKbomABKHASIAN HAbpmABKHASIAN HA",
    "bomES nDESCENDERbpmES nDESCENDERbomTE nDESCENDERbpmTE nDESCENDERbomSTRAIGHT UbpmSTRAIGHT U",
    "bomSTRAIGHT U nSTROKEbpmSTRAIGHT U nSTROKEbomHA nDESCENDERbpmHA nDESCENDERboLIGATURE TE TSE",
    "bpLIGATURE TE TSEbomCHE nDESCENDERbpmCHE nDESCENDERbomCHE nVERTICAL STROKE",
    "bpmCHE nVERTICAL STROKEbomSHHAbpmSHHAbomABKHASIAN CHEbpmABKHASIAN CHE",
    "bomABKHASIAN CHE nDESCENDERbpmABKHASIAN CHE nDESCENDERbmPALOCHKAbomZHE nBREVEbpmZHE nBREVE",
    "bomKA nHOOKbpmKA nHOOKbomEL nTAILbpmEL nTAILbomEN nHOOKbpmEN nHOOKbomEN nTAILbpmEN nTAIL",
    "bomKHAKASSIAN CHEbpmKHAKASSIAN CHEbomEM nTAILbpmEM nTAILdPALOCHKAbomA nBREVEbpmA nBREVE",
    "bomA nDIAERESISbpmA nDIAERESISboLIGATURE A IEbpLIGATURE A IEbomIE nBREVEbpmIE nBREVE",
    "bomSCHWAbpmSCHWAbomSCHWA nDIAERESISbpmSCHWA nDIAERESISbomZHE nDIAERESISbpmZHE nDIAERESIS",
    "bomZE nDIAERESISbpmZE nDIAERESISbomABKHASIAN DZEbpmABKHASIAN DZEbomI nMACRONbpmI nMACRON",
    "bomI nDIAERESISbpmI nDIAERESISbomO nDIAERESISbpmO nDIAERESISbomBARRED ObpmBARRED O",
    "bomBARRED O nDIAERESISbpmBARRED O nDIAERESISbomE nDIAERESISbpmE nDIAERESISbomU nMACRON",
    "bpmU nMACRONbomU nDIAERESISbpmU nDIAERESISbomU nwACUTEbpmU nwACUTEbomCHE nDIAERESIS",
    "bpmCHE nDIAERESISbomGHE nDESCENDERbpmGHE nDESCENDERbomYERU nDIAERESISbpmYERU nDIAERESIS",
    "bomGHE nSTROKE tHOOKbpmGHE nSTROKE tHOOKbomHA nHOOKbpmHA nHOOKbomHA nSTROKEbpmHA nSTROKE",
    "bomKOMI DEbpmKOMI DEbomKOMI DJEbpmKOMI DJEbomKOMI ZJEbpmKOMI ZJEbomKOMI DZJEbpmKOMI DZJE",
    "bomKOMI LJEbpmKOMI LJEbomKOMI NJEbpmKOMI NJEbomKOMI SJEbpmKOMI SJEbomKOMI TJEbpmKOMI TJE",
    "bomREVERSED ZEbpmREVERSED ZEbomEL nHOOKbpmEL nHOOKbomLHAbpmLHAbomRHAbpmRHAbomYAEbpmYAEbomQA",
    "bpmQAbomWEbpmWEbomALEUT KAbpmALEUT KAbomEL nMIDDLE HOOKbpmEL nMIDDLE HOOKbomEN nMIDDLE HOOK",
    "bpmEN nMIDDLE HOOKbomPE nDESCENDERbpmPE nDESCENDERbomSHHA nDESCENDERbpmSHHA nDESCENDER",
    "bomEN nxHOOKbpmEN nxHOOKbomDZZHEbpmDZZHEbomDCHEbpmDCHEbomEL nDESCENDERbpmEL nDESCENDER"]⟩,
  ⟨0x531,
   ["aARMENIAN omAYBdBENdGIMdDAdECHdZAdEHdETdTOdZHEdINIdLIWNdXEHdCAdKENdHOdJAdGHADdCHEHdMENdYI",
    "dNOWdSHAdVOdCHAdPEHdJHEHdRAdSEHdVEWdTIWNdREHdCOdYIWNdPIWRdKEHdOHdFEH"]⟩,
  ⟨0x559,
   ["aARMENIAN MODIFIER mxHALF RINGbAPOSTROPHEbEMPHASIS MARKbEXCLAMATION MARKbCOMMA",
    "bQUESTION MARKbABBREVIATION MARKbpmTURNED AYBdAYBdBENdGIMdDAdECHdZAdEHdETdTOdZHEdINIdLIWN",
    "dXEHdCAdKENdHOdJAdGHADdCHEHdMENdYIdNOWdSHAdVOdCHAdPEHdJHEHdRAdSEHdVEWdTIWNdREHdCOdYIWNdPIWR",
    "dKEHdOHdFEHcLIGATURE ECH YIWNcmYI nSTROKEbFULL STOPbHYPHEN"]⟩,
  ⟨0x58d,
   ["aRIGHT-FACING ARMENIAN ETERNITY SIGNaLEFT-FACING ARMENIAN ETERNITY SIGNaARMENIAN DRAM SIGN"]⟩,
  ⟨0x591,
   ["aHEBREW ACCENT ETNAHTAcSEGOLcSHALSHELETcZAQEF QATANdGADOLcTIPEHAcREVIAcZARQAcPASHTAcYETIV",
    "cTEVIRcGERESHcGERESH MUQDAMcGERSHAYIMcQARNEY PARAcTELISHA GEDOLAcPAZERcATNAH HAFUKHcMUNAH",
    "cMAHAPAKHcMERKHAcMERKHA KEFULAcDARGAcQADMAcTELISHA QETANAcYERAH BEN YOMOcOLEcILUYcDEHI",
    "cZINORbMARK MASORA CIRCLEbPOINT SHEVAcHATAF SEGOLdPATAHdQAMATScHIRIQcTSEREcSEGOLcPATAH",
    "cQAMATScHOLAMcHOLAM HASER FOR VAVcQUBUTScDAGESH OR MAPIQcMETEGbPUNCTUATION MAQAFbPOINT RAFE",
    "bPUNCTUATION PASEQbPOINT SHIN DOTcSIN DOTbPUNCTUATION SOF PASUQbMARK UPPER DOTcLOWER DOT",
    "bPUNCTUATION NUN HAFUKHAbPOINT QAMATS QATAN"]⟩,
  ⟨0x5d0,
   ["aHEBREW mALEFcBETcGIMELcDALETcHEcVAVcZAYINcHETcTETcYODcFINAL KAFcKAFcLAMEDcFINAL MEMcMEM",
    "cFINAL NUNcNUNcSAMEKHcAYINcFINAL PEcPEcFINAL TSADIcTSADIcQOFcRESHcSHINcTAV"]⟩,
  ⟨0x5ef,
   ["aHEBREW YOD TRIANGLEbLIGATURE YIDDISH wVAVdVAV YODdwYODbPUNCTUATION GERESHcGERSHAYIM"]⟩,
  ⟨0x600,
   ["aARABIC NUMBER SIGNbySANAHbFOOTNOTE MARKERbySAFHAcSAMVATbNUMBER MARK ABOVE",
    "aARABIC-INDIC CUBE ROOTcFOURTH ROOTaARABIC RAYaARABIC-INDIC PER MILLE SIGN",
    "dTEN THOUSAND SIGNaAFGHANI SIGNaARABIC COMMAbDATE SEPARATORbPOETIC VERSE SIGNbyMISRA",
    "cSALLALLAHOU ALAYHE WASSALLAMcALAYHE ASSALLAMcRAHMATULLAH ALAYHEcRADI ALLAHOU ANHU",
    "cTAKHALLUSbpHIGH TAHdLIGATURE ALEF nLAM nYEHdZAINcFATHAcDAMMAcKASRAbSEMICOLONbmMARK",
    "bEND OF TEXT MARKbTRIPLE DOT PUNCTUATION MARKbQUESTION MARKbmKASHMIRI YEHcHAMZA",
    "cALEF nMADDA ABOVEeHAMZA ABOVEcWAW nHAMZA ABOVEcALEF nHAMZA BELOWcYEH nHAMZA ABOVEcALEFcBEH",
    "cTEH MARBUTAcTEHcTHEHcJEEMcHAHcKHAHcDALcTHALcREHcZAINcSEENcSHEENcSADcDADcTAHcZAHcAINcGHAIN",
    "cKEHEH nTWO DOTS ABOVEeTHREE DOTS BELOWcFARSI YEH nINVERTED VfTWO DOTS ABOVE",
    "fTHREE DOTS ABOVEbTATWEELbmFEHcQAFcKAFcLAMcMEEMcNOONcHEHcWAWcALEF MAKSURAcYEHbFATHATAN",
    "bDAMMATANbKASRATANbFATHAbDAMMAbKASRAbSHADDAbSUKUNbMADDAH ABOVEbHAMZA ABOVEcBELOW",
    "bSUBSCRIPT ALEFbINVERTED DAMMAbMARK NOON GHUNNAbZWARAKAYbVOWEL ypV ABOVEdINVERTED pV ABOVE",
    "dDOT BELOWbREVERSED DAMMAbFATHA nTWO DOTSbWAVY HAMZA BELOWaARABIC-INDIC DIGIT ZEROdONEdTWO",
    "dTHREEdFOURdFIVEdSIXdSEVENdEIGHTdNINEaARABIC PERCENT SIGNbDECIMAL SEPARATOR",
    "bTHOUSANDS SEPARATORbFIVE POINTED STARbmDOTLESS BEHdQAFcSUPERSCRIPT ALEFcALEF WASLA",
    "dnWAVY HAMZA ABOVEgBELOWcHIGH HAMZAdHAMZA ALEFeWAWcU nHAMZA ABOVEcHIGH HAMZA YEHcTTEH",
    "cTTEHEHcBEEHcTEH nRINGeTHREE DOTS ABOVE DOWNWARDScPEHcTEHEHcBEHEHcHAH nHAMZA ABOVE",
    "eTWO DOTS VERTICAL ABOVEcNYEHcDYEHcHAH nTHREE DOTS ABOVEcTCHEHcTCHEHEHcDDALcDAL nRING",
    "eDOT BELOWfBELOW tpTAHcDAHALcDDAHALcDULcDAL nTHREE DOTS ABOVE DOWNWARDSeFOUR DOTS ABOVE",
    "cRREHcREH npVeRINGeDOT BELOWepV BELOWeDOT BELOW tDOT ABOVEeTWO DOTS ABOVEcJEH",
    "cREH nFOUR DOTS ABOVEcSEEN nDOT BELOW tDOT ABOVEeTHREE DOTS BELOWgBELOW tTHREE DOTS ABOVE",
    "cSAD nTWO DOTS BELOWeTHREE DOTS ABOVEcTAH nTHREE DOTS ABOVEcAIN nTHREE DOTS ABOVE",
    "cDOTLESS FEHcFEH nDOT MOVED BELOWfBELOWcVEHcFEH nTHREE DOTS BELOWcPEHEHcQAF nDOT ABOVE",
    "eTHREE DOTS ABOVEcKEHEHcSWASH KAFcKAF nRINGeDOT ABOVEcNGcKAF nTHREE DOTS BELOWcGAF",
    "cGAF nRINGcNGOEHcGAF nTWO DOTS BELOWcGUEHcGAF nTHREE DOTS ABOVEcLAM npVeDOT ABOVE",
    "eTHREE DOTS ABOVEgBELOWcNOON nDOT BELOWdGHUNNAcRNOONcNOON nRINGeTHREE DOTS ABOVE",
    "cHEH DOACHASHMEEcTCHEH nDOT ABOVEcHEH nYEH ABOVEdGOALdGOAL nHAMZA ABOVEcTEH MARBUTA GOAL",
    "cWAW nRINGcKIRGHIZ OEcOEcUcYUcKIRGHIZ YUcWAW nTWO DOTS ABOVEcVEcFARSI YEHcYEH nTAILepV",
    "cWAW nDOT ABOVEcEcYEH nTHREE DOTS BELOWdBARREEdBARREE nHAMZA ABOVEbFULL STOPbmAE",
    "bpHIGH LIGATURE SAD nLAM nALEF MAKSURAeQAF nLAM nALEF MAKSURAdMEEM sdLAM ALEFdJEEM",
    "dTHREE DOTSdSEENbEND OF AYAHbSTART OF RUB EL HIZBbpHIGH ROUNDED ZERO",
    "dUPRIGHT RECTANGULAR ZEROdDOTLESS HEAD OF KHAHdMEEM qcLOW SEENcHIGH MADDAcWAWcYEHcHIGH YEH",
    "dNOONbPLACE OF SAJDAHbEMPTY CENTRE LOW STOPdHIGH STOPbROUNDED HIGH STOP nFILLED CENTRE",
    "bpLOW MEEMbmDAL nINVERTED VcREH nINVERTED VaEXTENDED ARABIC-INDIC DIGIT ZEROeONEeTWOeTHREE",
    "eFOUReFIVEeSIXeSEVENeEIGHTeNINEaARABIC mSHEEN nDOT BELOWcDAD nDOT BELOWcGHAIN nDOT BELOW",
    "bySINDHI AMPERSANDdPOSTPOSITION MENbmHEH nINVERTED VaSYRIAC END OF PARAGRAPH",
    "bSUPRALINEAR FULL STOPbSUBLINEAR FULL STOPbSUPRALINEAR COLONbSUBLINEAR COLON",
    "bHORIZONTAL COLONbCOLON SKEWED LEFTdRIGHTbSUPRALINEAR COLON SKEWED LEFT",
    "bSUBLINEAR COLON SKEWED RIGHTbCONTRACTIONbHARKLEAN OBELUScMETOBELUScASTERISCUS"]⟩,
  ⟨0x70f,
   ["aSYRIAC ABBREVIATION MARKbmALAPHcSUPERSCRIPT ALAPHcBETHcGAMALcGAMAL GARSHUNIcDALATH",
    "cDOTLESS DALATH RISHcHEcWAWcZAINcHETHcTETHcTETH GARSHUNIcYUDHcYUDH HEcKAPHcLAMADHcMIMcNUN",
    "cSEMKATHcFINAL SEMKATHcEcPEcREVERSED PEcSADHEcQAPHcRISHcSHINcTAWcPERSIAN BHETHdGHAMAL",
    "dDHALATHbPTHAHA ABOVEcBELOWcDOTTEDbZQAPHA ABOVEcBELOWcDOTTEDbRBASA ABOVEcBELOW",
    "bDOTTED ZLAMA HORIZONTALdANGULARbHBASA ABOVEcBELOWbHBASA-ESASA DOTTEDbESASA ABOVEcBELOW",
    "bRWAHAbFEMININE DOTbQUSHSHAYAbRUKKAKHAbTWO VERTICAL DOTS ABOVEeBELOWbTHREE DOTS ABOVEdBELOW",
    "bOBLIQUE LINE ABOVEdBELOWbMUSICbBARREKH"]⟩,
  ⟨0x74d,
   ["aSYRIAC mSOGDIAN ZHAINdKHAPHdFEaARABIC mBEH nTHREE DOTS HORIZONTALLY BELOW",
    "eDOT BELOW tTHREE DOTS ABOVEeTHREE DOTS POINTING UPWARDS BELOWiBELOW tTWO DOTS ABOVE",
    "eTWO DOTS BELOW tDOT ABOVEeINVERTED pV BELOWepVcHAH nTWO DOTS ABOVE",
    "eTHREE DOTS POINTING UPWARDS BELOWcDAL nTWO DOTS VERTICALLY BELOW tpTAHeINVERTED pV BELOW",
    "cREH nSTROKEcSEEN nFOUR DOTS ABOVEcAIN nTWO DOTS ABOVEeTHREE DOTS POINTING DOWNWARDS ABOVE",
    "eTWO DOTS VERTICALLY ABOVEcFEH nTWO DOTS BELOWeTHREE DOTS POINTING UPWARDS BELOW",
    "cKEHEH nDOT ABOVEeTHREE DOTS ABOVEgPOINTING UPWARDS BELOWcMEEM nDOT ABOVEfBELOW",
    "cNOON nTWO DOTS BELOWepTAHfVcLAM nBARcREH nTWO DOTS VERTICALLY ABOVEeHAMZA ABOVE",
    "cSEEN nTWO DOTS VERTICALLY ABOVEcHAH npARABIC mTAH BELOWitTWO DOTS",
    "cSEEN npARABIC mTAH tTWO DOTScREH npARABIC mTAH tTWO DOTScHAH npARABIC mTAH ABOVE",
    "cALEF nEXTENDED ARABIC-INDIC DIGIT TWO ABOVEiTHREE ABOVE",
    "cFARSI YEH nEXTENDED ARABIC-INDIC DIGIT TWO ABOVEjTHREE ABOVEjFOUR BELOW",
    "cWAW nEXTENDED ARABIC-INDIC DIGIT TWO ABOVEiTHREE ABOVE",
    "cYEH BARREE nEXTENDED ARABIC-INDIC DIGIT TWO ABOVEjTHREE ABOVE",
    "cHAH nEXTENDED ARABIC-INDIC DIGIT FOUR BELOWcSEEN nEXTENDED ARABIC-INDIC DIGIT FOUR ABOVE",
    "eINVERTED VcKAF nTWO DOTS ABOVEaTHAANA mHAAcSHAVIYANIcNOONUcRAAcBAAcLHAVIYANIcKAAFUcALIFU",
    "cVAAVUcMEEMUcFAAFUcDHAALUcTHAAcLAAMUcGAAFUcGNAVIYANIcSEENUcDAVIYANIcZAVIYANIcTAVIYANIcYAA",
    "cPAVIYANIcJAVIYANIcCHAVIYANIcTTAAcHHAAcKHAAcTHAALUcZAAcSHEENUcSAADHUcDAADHUcTOcZOcAINU",
    "cGHAINUcQAAFUcWAAVUbABAFILIbAABAAFILIbIBIFILIbEEBEEFILIbUBUFILIbOOBOOFILIbEBEFILIbEYBEYFILI",
    "bOBOFILIbOABOAFILIbSUKUNbmNAA"]⟩,
  ⟨0x7c0,
   ["aNKO DIGIT ZEROcONEcTWOcTHREEcFOURcFIVEcSIXcSEVENcEIGHTcNINEbmAcEEcIcEcUcOOcOcDAGBASINNAcN",
    "cBAcPAcTAcJAcCHAcDAcRAcRRAcSAcGBAcFAcKAcLAcNA WOLOSOcMAcNYAcNAcHAcWAcYAcNYA WOLOSOcJONA JA",
    "dCHAdRAbCOMBINING SHORT HIGH TONEdLOW TONEdRISING TONEcLONG DESCENDING TONEdHIGH TONE",
    "dLOW TONEdRISING TONEcNASALIZATION MARKcwDOT ABOVEbHIGH TONE APOSTROPHEbLOW TONE APOSTROPHE",
    "bSYMBOL OO DENNENcGBAKURUNENbCOMMAbEXCLAMATION MARKbLAJANYALAN"]⟩,
  ⟨0x7fd,
   ["aNKO DANTAYALANbDOROME SIGNbTAMAN SIGNaSAMARITAN mALAFcBITcGAMANcDALATcIYcBAAcZENcITcTIT",
    "cYUTcKAAFcLABATcMIMcNUNcSINGAATcINcFIcTSAADIYcQUFcRISHcSHANcTAAFbMARK INcIN-ALAFcOCCLUSION",
    "cDAGESHbMODIFIER mEPENTHETIC YUTbMARK EPENTHETIC YUTbVOWEL yLONG EdEdOVERLONG AAdLONG AAdAA",
    "dOVERLONG AdLONG AdAbMODIFIER mSHORT AbVOWEL ySHORT AdLONG UdUbMODIFIER mIbVOWEL yLONG IdI",
    "dOdSUKUNbMARK NEQUDAA"]⟩,
  ⟨0x830,
   ["aSAMARITAN PUNCTUATION NEQUDAAcAFSAAQcANGEDcBAUcATMAAUcSHIYYAALAAbABBREVIATION MARK",
    "bPUNCTUATION MELODIC QITSAcZIQAAcQITSAcZAEFcTURUcARKAANUcSOF MASHFAATcANNAAU"]⟩,
  ⟨0x840,
   ["aMANDAIC mHALQAcABcAGcADcAHcUSHENNAcAZcITcATTcAKSAcAKcALcAMcANcAScINcAPcASZcAQcARcASHcAT",
    "cDUSHENNAcKADcAINbAFFRICATION MARKbVOCALIZATION MARKbGEMINATION MARK"]⟩,
  ⟨0x85e, ["aMANDAIC PUNCTUATION"]⟩,
  ⟨0x860, ["aSYRIAC mMALAYALAM NGAdJAdNYAdTTAdNNAdNNNAdBHAdRAdLLAdLLLAdSSA"]⟩,
  ⟨0x870,
   ["aARABIC mALEF nATTACHED FATHAfTOP uFATHAeuMIDDLE STROKEexMIDDLE STROKEeATTACHED KASRA",
    "fBOTTOM uKASRAfROUND DOT ABOVEfuROUND DOTfxROUND DOTfROUND DOT BELOWeDOT ABOVE",
    "eATTACHED TOP uFATHA tDOT ABOVEeuMIDDLE STROKE tDOT ABOVEeATTACHED BOTTOM uKASRA tDOT ABOVE",
    "fTOP uFATHA txRINGeuMIDDLE STROKE txRINGeATTACHED BOTTOM uKASRA txRINGfuHAMZAfxHAMZA",
    "bTATWEEL nOVERSTRUCK HAMZAeWAWdTWO DOTS BELOWbmTHIN YEHbBASELINE ROUND DOTbRAISED ROUND DOT",
    "bmNOON nINVERTED pVcHAH nINVERTED pV BELOWcTAH nDOT BELOWeTHREE DOTS BELOW",
    "cKEHEH nTWO DOTS VERTICALLY BELOWbVERTICAL TAIL"]⟩,
  ⟨0x890, ["aARABIC POUND MARK ABOVEbPIASTRE MARK ABOVE"]⟩,
  ⟨0x898,
   ["aARABIC pHIGH WORD AL-JUZcLOW WORD ISHMAAMeIMAALAeTASHEELbMADDA WAAJIB",
    "bSUPERSCRIPT ALEF MOKHASSASbDOUBLED MADDAbHALF MADDA OVER MADDAbmBEH npV BELOWeHAMZA ABOVE",
    "cJEEM nTWO DOTS ABOVEcTAH nTWO DOTS ABOVEcFEH nDOT BELOW tTHREE DOTS ABOVEcQAF nDOT BELOW",
    "cLAM nwBARcMEEM nTHREE DOTS ABOVEcYEH nTWO DOTS BELOW tHAMZA ABOVEiDOT ABOVEcREH nLOOP",
    "cWAW nDOT WITHINcROHINGYA YEHcLOW ALEFcDAL nTHREE DOTS BELOWcSAD nTHREE DOTS BELOW",
    "cGAF nINVERTED STROKEcSTRAIGHT WAWcZAIN nINVERTED V ABOVEcAIN nTHREE DOTS BELOW",
    "cKAF nDOT BELOWcQAF nDOT BELOW tNO DOTS ABOVEcBEH npMEEM ABOVEcPEH npMEEM ABOVE",
    "cTEH npTEH ABOVEcREH npNOON ABOVEcYEH nTWO DOTS BELOW tpNOON ABOVEcAFRICAN FEHdQAFdNOON",
    "cPEH npVcTEH npVcTTEH npVcTCHEH npVcKEHEH npVcGHAIN nTHREE DOTS ABOVE",
    "cAFRICAN QAF nTHREE DOTS ABOVEcJEEM nTHREE DOTS ABOVEgBELOWcLAM npARABIC mTAH ABOVEcGRAF",
    "bpFARSI YEHcHIGH FARSI YEHdYEH BARREE nTWO DOTS BELOWdWORD SAHdZAHbLARGE ROUND DOT ABOVE",
    "eBELOWbSUKUN BELOWbLARGE CIRCLE BELOWcROUND DOT INSIDE CIRCLE BELOWbpLOW WAW",
    "cHIGH WORD AR-RUBdSADdAINdQAFdNOON nKASRAcLOW NOON nKASRAcHIGH WORD ATH-THALATHAeAS-SAJDA",
    "eAN-NISFeSAKTAeQIFeWAQFAdFOOTNOTE MARKERdySAFHAbDISPUTED END OF AYAHbTURNED DAMMA BELOW",
    "bCURLY FATHAcDAMMAcKASRAcFATHATANcDAMMATANcKASRATANbTONE ONE DOT ABOVEcTWO DOTS ABOVE",
    "cLOOP ABOVEcONE DOT BELOWcTWO DOTS BELOWcLOOP BELOWbOPEN FATHATANcDAMMATANcKASRATAN",
    "bpHIGH WAWbFATHA nRINGdDOT ABOVEbKASRA nDOT BELOWbxARROWHEAD ABOVEbuARROWHEAD ABOVE",
    "bxARROWHEAD BELOWbuARROWHEAD BELOWbwuARROWHEAD ABOVEeABOVE nDOTbuARROWHEAD ABOVE nDOT",
    "bDAMMA nDOTbMARK SIDEWAYS NOON GHUNNAaDEVANAGARI yINVERTED CANDRABINDUcCANDRABINDUcANUSVARA",
    "cVISARGAbmSHORT AcAcAAcIcIIcUcUUcVOCALIC RdLcCANDRA EcSHORT EcEcAIcCANDRA OcSHORT OcOcAUcKA",
    "cKHAcGAcGHAcNGAcCAcCHAcJAcJHAcNYAcTTAcTTHAcDDAcDDHAcNNAcTAcTHAcDAcDHAcNAcNNNAcPAcPHAcBAcBHA",
    "cMAcYAcRAcRRAcLAcLLAcLLLAcVAcSHAcSSAcSAcHAbVOWEL yOEdOOEbyNUKTAcAVAGRAHAbVOWEL yAAdIdIIdU",
    "dUUdVOCALIC ReRRdCANDRA EdSHORT EdEdAIdCANDRA OdSHORT OdOdAUbyVIRAMAbVOWEL yPRISHTHAMATRA E",
    "dAWbOMbSTRESS yUDATTAdANUDATTAbGRAVE ACCENTbACUTE ACCENTbVOWEL yCANDRA LONG EdUEdUUEbmQA",
    "cKHHAcGHHAcZAcDDDHAcRHAcFAcYYAcVOCALIC RRdLLbVOWEL yVOCALIC LeLLbDANDAbwDANDAbDIGIT ZERO",
    "cONEcTWOcTHREEcFOURcFIVEcSIXcSEVENcEIGHTcNINEbABBREVIATION SIGNbyHIGH SPACING DOTbmCANDRA A",
    "cOEcOOEcAWcUEcUUEcMARWARI DDAcZHAcHEAVY YAcGGAcJJAcGLOTTAL STOPcDDDAcBBAaBENGALI ANJI",
    "byCANDRABINDUcANUSVARAcVISARGA"]⟩,
  ⟨0x985, ["aBENGALI mAcAAcIcIIcUcUUcVOCALIC RdL"]⟩, ⟨0x98f, ["aBENGALI mEcAI"]⟩,
  ⟨0x993,
   ["aBENGALI mOcAUcKAcKHAcGAcGHAcNGAcCAcCHAcJAcJHAcNYAcTTAcTTHAcDDAcDDHAcNNAcTAcTHAcDAcDHAcNA"]⟩,
  ⟨0x9aa, ["aBENGALI mPAcPHAcBAcBHAcMAcYAcRA"]⟩, ⟨0x9b2, ["aBENGALI mLA"]⟩,
  ⟨0x9b6, ["aBENGALI mSHAcSSAcSAcHA"]⟩,
  ⟨0x9bc, ["aBENGALI yNUKTAcAVAGRAHAbVOWEL yAAdIdIIdUdUUdVOCALIC ReRR"]⟩,
  ⟨0x9c7, ["aBENGALI VOWEL yEdAI"]⟩, ⟨0x9cb, ["aBENGALI VOWEL yOdAUbyVIRAMAbmKHANDA TA"]⟩,
  ⟨0x9d7, ["aBENGALI AU LENGTH MARK"]⟩, ⟨0x9dc, ["aBENGALI mRRAcRHA"]⟩,
  ⟨0x9df, ["aBENGALI mYYAcVOCALIC RRdLLbVOWEL yVOCALIC LeLL"]⟩,
  ⟨0x9e6,
   ["aBENGALI DIGIT ZEROcONEcTWOcTHREEcFOURcFIVEcSIXcSEVENcEIGHTcNINEbmRA nMIDDLE DIAGONAL",
    "eLOWER DIAGONALbRUPEE MARKcSIGNbCURRENCY NUMERATOR ONEdTWOdTHREEdFOUR",
    "dONE LESS THAN THE DENOMINATORcDENOMINATOR SIXTEENbISSHARbGANDA MARKbmVEDIC ANUSVARA",
    "bABBREVIATION SIGNbSANDHI MARK"]⟩,
  ⟨0xa01, ["aGURMUKHI yADAK BINDIcBINDIcVISARGA"]⟩, ⟨0xa05, ["aGURMUKHI mAcAAcIcIIcUcUU"]⟩,
  ⟨0xa0f, ["aGURMUKHI mEEcAI"]⟩,
  ⟨0xa13,
   ["aGURMUKHI mOOcAUcKAcKHAcGAcGHAcNGAcCAcCHAcJAcJHAcNYAcTTAcTTHAcDDAcDDHAcNNAcTAcTHAcDAcDHAcNA"]⟩,
  ⟨0xa2a, ["aGURMUKHI mPAcPHAcBAcBHAcMAcYAcRA"]⟩, ⟨0xa32, ["aGURMUKHI mLAcLLA"]⟩,
  ⟨0xa35, ["aGURMUKHI mVAcSHA"]⟩, ⟨0xa38, ["aGURMUKHI mSAcHA"]⟩, ⟨0xa3c, ["aGURMUKHI yNUKTA"]⟩,
  ⟨0xa3e, ["aGURMUKHI VOWEL yAAdIdIIdUdUU"]⟩, ⟨0xa47, ["aGURMUKHI VOWEL yEEdAI"]⟩,
  ⟨0xa4b, ["aGURMUKHI VOWEL yOOdAUbyVIRAMA"]⟩, ⟨0xa51, ["aGURMUKHI yUDAAT"]⟩,
  ⟨0xa59, ["aGURMUKHI mKHHAcGHHAcZAcRRA"]⟩, ⟨0xa5e, ["aGURMUKHI mFA"]⟩,
  ⟨0xa66,
   ["aGURMUKHI DIGIT ZEROcONEcTWOcTHREEcFOURcFIVEcSIXcSEVENcEIGHTcNINEbTIPPIbADDAKbIRIbURA",
    "bEK ONKARbyYAKASHbABBREVIATION SIGN"]⟩,
  ⟨0xa81, ["aGUJARATI yCANDRABINDUcANUSVARAcVISARGA"]⟩,
  ⟨0xa85, ["aGUJARATI mAcAAcIcIIcUcUUcVOCALIC RdLbVOWEL CANDRA E"]⟩,
  ⟨0xa8f, ["aGUJARATI mEcAIbVOWEL CANDRA O"]⟩,
  ⟨0xa93,
   ["aGUJARATI mOcAUcKAcKHAcGAcGHAcNGAcCAcCHAcJAcJHAcNYAcTTAcTTHAcDDAcDDHAcNNAcTAcTHAcDAcDHAcNA"]⟩,
  ⟨0xaaa, ["aGUJARATI mPAcPHAcBAcBHAcMAcYAcRA"]⟩, ⟨0xab2, ["aGUJARATI mLAcLLA"]⟩,
  ⟨0xab5, ["aGUJARATI mVAcSHAcSSAcSAcHA"]⟩,
  ⟨0xabc, ["aGUJARATI yNUKTAcAVAGRAHAbVOWEL yAAdIdIIdUdUUdVOCALIC ReRRdCANDRA E"]⟩,
  ⟨0xac7, ["aGUJARATI VOWEL yEdAIdCANDRA O"]⟩, ⟨0xacb, ["aGUJARATI VOWEL yOdAUbyVIRAMA"]⟩,
  ⟨0xad0, ["aGUJARATI OM"]⟩, ⟨0xae0, ["aGUJARATI mVOCALIC RRdLLbVOWEL yVOCALIC LeLL"]⟩,
  ⟨0xae6,
   ["aGUJARATI DIGIT ZEROcONEcTWOcTHREEcFOURcFIVEcSIXcSEVENcEIGHTcNINEbABBREVIATION SIGN",
    "bRUPEE SIGN"]⟩,
  ⟨0xaf9,
   ["aGUJARATI mZHAbySUKUNcSHADDAcMADDAHcTHREE-DOT NUKTA ABOVEcCIRCLE NUKTA ABOVE",
    "cTWO-CIRCLE NUKTA ABOVE"]⟩,
  ⟨0xb01, ["aORIYA yCANDRABINDUcANUSVARAcVISARGA"]⟩,
  ⟨0xb05, ["aORIYA mAcAAcIcIIcUcUUcVOCALIC RdL"]⟩, ⟨0xb0f, ["aORIYA mEcAI"]⟩,
  ⟨0xb13,
   ["aORIYA mOcAUcKAcKHAcGAcGHAcNGAcCAcCHAcJAcJHAcNYAcTTAcTTHAcDDAcDDHAcNNAcTAcTHAcDAcDHAcNA"]⟩,
  ⟨0xb2a, ["aORIYA mPAcPHAcBAcBHAcMAcYAcRA"]⟩, ⟨0xb32, ["aORIYA mLAcLLA"]⟩,
  ⟨0xb35, ["aORIYA mVAcSHAcSSAcSAcHA"]⟩,
  ⟨0xb3c, ["aORIYA yNUKTAcAVAGRAHAbVOWEL yAAdIdIIdUdUUdVOCALIC ReRR"]⟩,
  ⟨0xb47, ["aORIYA VOWEL yEdAI"]⟩, ⟨0xb4b, ["aORIYA VOWEL yOdAUbyVIRAMA"]⟩,
  ⟨0xb55, ["aORIYA yOVERLINEbAI LENGTH MARKbAU LENGTH MARK"]⟩, ⟨0xb5c, ["aORIYA mRRAcRHA"]⟩,
  ⟨0xb5f, ["aORIYA mYYAcVOCALIC RRdLLbVOWEL yVOCALIC LeLL"]⟩,
  ⟨0xb66,
   ["aORIYA DIGIT ZEROcONEcTWOcTHREEcFOURcFIVEcSIXcSEVENcEIGHTcNINEbISSHARbmWA",
    "bFRACTION ONE QUARTERdHALFcTHREE QUARTERScONE SIXTEENTHdEIGHTHcTHREE SIXTEENTHS"]⟩,
  ⟨0xb82, ["aTAMIL yANUSVARAcVISARGA"]⟩, ⟨0xb85, ["aTAMIL mAcAAcIcIIcUcUU"]⟩,
  ⟨0xb8e, ["aTAMIL mEcEEcAI"]⟩, ⟨0xb92, ["aTAMIL mOcOOcAUcKA"]⟩, ⟨0xb99, ["aTAMIL mNGAcCA"]⟩,
  ⟨0xb9c, ["aTAMIL mJA"]⟩, ⟨0xb9e, ["aTAMIL mNYAcTTA"]⟩, ⟨0xba3, ["aTAMIL mNNAcTA"]⟩,
  ⟨0xba8, ["aTAMIL mNAcNNNAcPA"]⟩, ⟨0xbae, ["aTAMIL mMAcYAcRAcRRAcLAcLLAcLLLAcVAcSHAcSSAcSAcHA"]⟩,
  ⟨0xbbe, ["aTAMIL VOWEL yAAdIdIIdUdUU"]⟩, ⟨0xbc6, ["aTAMIL VOWEL yEdEEdAI"]⟩,
  ⟨0xbca, ["aTAMIL VOWEL yOdOOdAUbyVIRAMA"]⟩, ⟨0xbd0, ["aTAMIL OM"]⟩,
  ⟨0xbd7, ["aTAMIL AU LENGTH MARK"]⟩,
  ⟨0xbe6,
   ["aTAMIL DIGIT ZEROcONEcTWOcTHREEcFOURcFIVEcSIXcSEVENcEIGHTcNINEbNUMBER TENcONE HUNDRED",
    "dTHOUSANDbDAY SIGNbMONTH SIGNbYEAR SIGNbDEBIT SIGNbCREDIT SIGNbAS ABOVE SIGNbRUPEE SIGN",
    "bNUMBER SIGN"]⟩,
  ⟨0xc00,
   ["aTELUGU yCOMBINING CANDRABINDU ABOVEcCANDRABINDUcANUSVARAcVISARGAcCOMBINING ANUSVARA ABOVE",
    "bmAcAAcIcIIcUcUUcVOCALIC RdL"]⟩,
  ⟨0xc0e, ["aTELUGU mEcEEcAI"]⟩,
  ⟨0xc12,
   ["aTELUGU mOcOOcAUcKAcKHAcGAcGHAcNGAcCAcCHAcJAcJHAcNYAcTTAcTTHAcDDAcDDHAcNNAcTAcTHAcDAcDHAcNA"]⟩,
  ⟨0xc2a, ["aTELUGU mPAcPHAcBAcBHAcMAcYAcRAcRRAcLAcLLAcLLLAcVAcSHAcSSAcSAcHA"]⟩,
  ⟨0xc3c, ["aTELUGU yNUKTAcAVAGRAHAbVOWEL yAAdIdIIdUdUUdVOCALIC ReRR"]⟩,
  ⟨0xc46, ["aTELUGU VOWEL yEdEEdAI"]⟩, ⟨0xc4a, ["aTELUGU VOWEL yOdOOdAUbyVIRAMA"]⟩,
  ⟨0xc55, ["aTELUGU LENGTH MARKbAI LENGTH MARK"]⟩, ⟨0xc58, ["aTELUGU mTSAcDZAcRRRA"]⟩,
  ⟨0xc5d, ["aTELUGU mNAKAARA POLLU"]⟩, ⟨0xc60, ["aTELUGU mVOCALIC RRdLLbVOWEL yVOCALIC LeLL"]⟩,
  ⟨0xc66, ["aTELUGU DIGIT ZEROcONEcTWOcTHREEcFOURcFIVEcSIXcSEVENcEIGHTcNINE"]⟩,
  ⟨0xc77,
   ["aTELUGU ySIDDHAMbFRACTION DIGIT ZERO FOR ODD POWERS OF FOURdONE FOR ODD POWERS OF FOUR",
    "dTWO FOR ODD POWERS OF FOURdTHREE FOR ODD POWERS OF FOURdONE FOR EVEN POWERS OF FOUR",
    "dTWO FOR EVEN POWERS OF FOURdTHREE FOR EVEN POWERS OF FOURbyTUUMU",
    "aKANNADA ySPACING CANDRABINDUcCANDRABINDUcANUSVARAcVISARGAcSIDDHAMbmAcAAcIcIIcUcUU",
    "cVOCALIC RdL"]⟩,
  ⟨0xc8e, ["aKANNADA mEcEEcAI"]⟩,
  ⟨0xc92,
   ["aKANNADA mOcOOcAUcKAcKHAcGAcGHAcNGAcCAcCHAcJAcJHAcNYAcTTAcTTHAcDDAcDDHAcNNAcTAcTHAcDAcDHA",
    "cNA"]⟩,
  ⟨0xcaa, ["aKANNADA mPAcPHAcBAcBHAcMAcYAcRAcRRAcLAcLLA"]⟩, ⟨0xcb5, ["aKANNADA mVAcSHAcSSAcSAcHA"]⟩,
  ⟨0xcbc, ["aKANNADA yNUKTAcAVAGRAHAbVOWEL yAAdIdIIdUdUUdVOCALIC ReRR"]⟩,
  ⟨0xcc6, ["aKANNADA VOWEL yEdEEdAI"]⟩, ⟨0xcca, ["aKANNADA VOWEL yOdOOdAUbyVIRAMA"]⟩,
  ⟨0xcd5, ["aKANNADA LENGTH MARKbAI LENGTH MARK"]⟩, ⟨0xcdd, ["aKANNADA mNAKAARA POLLUcFA"]⟩,
  ⟨0xce0, ["aKANNADA mVOCALIC RRdLLbVOWEL yVOCALIC LeLL"]⟩,
  ⟨0xce6, ["aKANNADA DIGIT ZEROcONEcTWOcTHREEcFOURcFIVEcSIXcSEVENcEIGHTcNINE"]⟩,
  ⟨0xcf1, ["aKANNADA yJIHVAMULIYAcUPADHMANIYA"]⟩,
  ⟨0xd00,
   ["aMALAYALAM yCOMBINING ANUSVARA ABOVEcCANDRABINDUcANUSVARAcVISARGAbmVEDIC ANUSVARAcAcAAcIcII",
    "cUcUUcVOCALIC RdL"]⟩,
  ⟨0xd0e, ["aMALAYALAM mEcEEcAI"]⟩,
  ⟨0xd12,
   ["aMALAYALAM mOcOOcAUcKAcKHAcGAcGHAcNGAcCAcCHAcJAcJHAcNYAcTTAcTTHAcDDAcDDHAcNNAcTAcTHAcDAcDHA",
    "cNAcNNNAcPAcPHAcBAcBHAcMAcYAcRAcRRAcLAcLLAcLLLAcVAcSHAcSSAcSAcHAcTTTAbyVERTICAL BAR VIRAMA",
    "cCIRCULAR VIRAMAcAVAGRAHAbVOWEL yAAdIdIIdUdUUdVOCALIC ReRR"]⟩,
  ⟨0xd46, ["aMALAYALAM VOWEL yEdEEdAI"]⟩,
  ⟨0xd4a, ["aMALAYALAM VOWEL yOdOOdAUbyVIRAMAbmDOT REPHbyPARA"]⟩,
  ⟨0xd54,
   ["aMALAYALAM mCHILLU MdYdLLLbAU LENGTH MARKbFRACTION ONE ONE-HUNDRED-AND-SIXTIETHdFORTIETH",
    "cTHREE EIGHTIETHScONE TWENTIETHdTENTHcTHREE TWENTIETHScONE FIFTHbmARCHAIC IIcVOCALIC RRdLL",
    "bVOWEL yVOCALIC LeLL"]⟩,
  ⟨0xd66,
   ["aMALAYALAM DIGIT ZEROcONEcTWOcTHREEcFOURcFIVEcSIXcSEVENcEIGHTcNINEbNUMBER TENcONE HUNDRED",
    "dTHOUSANDbFRACTION ONE QUARTERdHALFcTHREE QUARTERScONE SIXTEENTHdEIGHTHcTHREE SIXTEENTHS",
    "bDATE MARKbmCHILLU NNdNdRRdLdLLdK"]⟩,
  ⟨0xd81, ["aSINHALA yCANDRABINDUcANUSVARAYAcVISARGAYA"]⟩,
  ⟨0xd85,
   ["aSINHALA mAYANNAcAAYANNAcAEYANNAcAEEYANNAcIYANNAcIIYANNAcUYANNAcUUYANNAcIRUYANNAcIRUUYANNA",
    "cILUYANNAcILUUYANNAcEYANNAcEEYANNAcAIYANNAcOYANNAcOOYANNAcAUYANNA"]⟩,
  ⟨0xd9a,
   ["aSINHALA mALPAPRAANA KAYANNAcMAHAAPRAANA KAYANNAcALPAPRAANA GAYANNAcMAHAAPRAANA GAYANNA",
    "cKANTAJA NAASIKYAYAcSANYAKA GAYANNAcALPAPRAANA CAYANNAcMAHAAPRAANA CAYANNA",
    "cALPAPRAANA JAYANNAcMAHAAPRAANA JAYANNAcTAALUJA NAASIKYAYAdSANYOOGA NAAKSIKYAYA",
    "cSANYAKA JAYANNAcALPAPRAANA TTAYANNAcMAHAAPRAANA TTAYANNAcALPAPRAANA DDAYANNA",
    "cMAHAAPRAANA DDAYANNAcMUURDHAJA NAYANNAcSANYAKA DDAYANNAcALPAPRAANA TAYANNA",
    "cMAHAAPRAANA TAYANNAcALPAPRAANA DAYANNAcMAHAAPRAANA DAYANNAcDANTAJA NAYANNA"]⟩,
  ⟨0xdb3,
   ["aSINHALA mSANYAKA DAYANNAcALPAPRAANA PAYANNAcMAHAAPRAANA PAYANNAcALPAPRAANA BAYANNA",
    "cMAHAAPRAANA BAYANNAcMAYANNAcAMBA BAYANNAcYAYANNAcRAYANNA"]⟩,
  ⟨0xdbd, ["aSINHALA mDANTAJA LAYANNA"]⟩,
  ⟨0xdc0,
   ["aSINHALA mVAYANNAcTAALUJA SAYANNAcMUURDHAJA SAYANNAcDANTAJA SAYANNAcHAYANNA",
    "cMUURDHAJA LAYANNAcFAYANNA"]⟩,
  ⟨0xdca, ["aSINHALA yAL-LAKUNA"]⟩,
  ⟨0xdcf,
   ["aSINHALA VOWEL yAELA-PILLAdKETTI AEDA-PILLAdDIGA AEDA-PILLAdKETTI IS-PILLAdDIGA IS-PILLA",
    "dKETTI PAA-PILLA"]⟩,
  ⟨0xdd6, ["aSINHALA VOWEL yDIGA PAA-PILLA"]⟩,
  ⟨0xdd8,
   ["aSINHALA VOWEL yGAETTA-PILLAdKOMBUVAdDIGA KOMBUVAdKOMBU DEKAdKOMBUVA HAA AELA-PILLA",
    "fDIGA AELA-PILLAfGAYANUKITTAdGAYANUKITTA"]⟩,
  ⟨0xde6, ["aSINHALA LITH DIGIT ZEROdONEdTWOdTHREEdFOURdFIVEdSIXdSEVENdEIGHTdNINE"]⟩,
  ⟨0xdf2, ["aSINHALA VOWEL yDIGA GAETTA-PILLAeGAYANUKITTAbPUNCTUATION KUNDDALIYA"]⟩,
  ⟨0xe01,
   ["aTHAI CHARACTER KO KAIcKHO KHAIdKHUATdKHWAIdKHONdRAKHANGcNGO NGUcCHO CHANdCHINGdCHANGcSO SO",
    "cCHO CHOEcYO YINGcDO CHADAcTO PATAKcTHO THANdNANGMONTHOdPHUTHAOcNO NENcDO DEKcTO TAO",
    "cTHO THUNGdTHAHANdTHONGcNO NUcBO BAIMAIcPO PLAcPHO PHUNGcFO FAcPHO PHANcFO FANcPHO SAMPHAO",
    "cMO MAcYO YAKcRO RUAcRUcLO LINGcLUcWO WAENcSO SALAdRUSIdSUAcHO HIPcLO CHULAcO ANGcHO NOKHUK",
    "cPAIYANNOIcSARA AcMAI HAN-AKATcSARA AAdAMdIdIIdUEdUEEdUdUUcPHINTHU"]⟩,
  ⟨0xe3f,
   ["aTHAI CURRENCY SYMBOL BAHTbCHARACTER SARA EdAEdOdAI MAIMUANeMAIMALAIcLAKKHANGYAOcMAIYAMOK",
    "cMAITAIKHUcMAI EKdTHOdTRIdCHATTAWAcTHANTHAKHATcNIKHAHITcYAMAKKANcFONGMANbDIGIT ZEROcONEcTWO",
    "cTHREEcFOURcFIVEcSIXcSEVENcEIGHTcNINEbCHARACTER ANGKHANKHUcKHOMUT"]⟩,
  ⟨0xe81, ["aLAO mKOcKHO SUNG"]⟩, ⟨0xe84, ["aLAO mKHO TAM"]⟩,
  ⟨0xe86, ["aLAO mPALI GHAcNGOcCOcPALI CHAcSO TAM"]⟩,
  ⟨0xe8c,
   ["aLAO mPALI JHAcNYOcPALI NYAdTTAdTTHAdDDAdDDHAdNNAcDOcTOcTHO SUNGdTAMcPALI DHAcNOcBOcPO",
    "cPHO SUNGcFO TAMcPHO TAMcFO SUNGcPALI BHAcMOcYOcLO LING"]⟩,
  ⟨0xea5, ["aLAO mLO LOOT"]⟩,
  ⟨0xea7,
   ["aLAO mWOcSANSKRIT SHAdSSAcSO SUNGcHO SUNGcPALI LLAcOcHO TAMbELLIPSISbVOWEL yAdMAI KANdAAdAM",
    "dIdIIdYdYYdUdUUbyPALI VIRAMAbVOWEL yMAI KONbSEMIVOWEL yLOdNYO"]⟩,
  ⟨0xec0, ["aLAO VOWEL yEdEIdOdAYdAI"]⟩, ⟨0xec6, ["aLAO KO LA"]⟩,
  ⟨0xec8, ["aLAO TONE MAI EKdTHOdTIdCATAWAbCANCELLATION MARKbNIGGAHITA"]⟩,
  ⟨0xed0, ["aLAO DIGIT ZEROcONEcTWOcTHREEcFOURcFIVEcSIXcSEVENcEIGHTcNINE"]⟩,
  ⟨0xedc, ["aLAO HO NOcMObmKHMU GOdNYO"]⟩,
  ⟨0xf00,
   ["aTIBETAN SYLLABLE OMbMARK GTER YIG MGO TRUNCATED Af-UM RNAM BCAD MAhGTER TSHEG MA",
    "cINITIAL YIG MGO MDUN MAcCLOSING YIG MGO SGAB MAcCARET YIG MGO PHUR SHAD MA",
    "cYIG MGO TSHEG SHAD MAcSBRUL SHADcBSKUR YIG MGOcBKA- SHOG YIG MGOcINTERSYLLABIC TSHEG",
    "cDELIMITER TSHEG BSTARcSHADcNYIS SHADcTSHEG SHADcNYIS TSHEG SHADcRIN CHEN SPUNGS SHAD",
    "cRGYA GRAM SHADcCARET -DZUD RTAGS ME LONG CANcGTER TSHEGbLOGOTYPE yCHAD RTAGSdLHAG RTAGS",
    "bASTROLOGICAL ySGRA GCAN -CHAR RTAGSd-KHYUD PAdSDONG TSHUGSbyRDEL DKAR GCIGeGNYISeGSUM",
    "dNAG GCIGeGNYISdDKAR RDEL NAGbDIGIT ZEROcONEcTWOcTHREEcFOURcFIVEcSIXcSEVENcEIGHTcNINE",
    "cHALF ONEdTWOdTHREEdFOURdFIVEdSIXdSEVENdEIGHTdNINEdZERObMARK BSDUS RTAGScNGAS BZUNG NYI ZLA",
    "cCARET -DZUD RTAGS BZHI MIG CANcNGAS BZUNG SGOR RTAGScCHE MGOcTSA -PHRUcGUG RTAGS GYONeGYAS",
    "cANG KHANG GYONeGYASbyYAR TSHEScMAR TSHESbmKAcKHAcGAcGHAcNGAcCAcCHAcJA"]⟩,
  ⟨0xf49,
   ["aTIBETAN mNYAcTTAcTTHAcDDAcDDHAcNNAcTAcTHAcDAcDHAcNAcPAcPHAcBAcBHAcMAcTSAcTSHAcDZAcDZHAcWA",
    "cZHAcZAc-AcYAcRAcLAcSHAcSSAcSAcHAcAcKSSAcFIXED-FORM RAcKKAcRRA"]⟩,
  ⟨0xf71,
   ["aTIBETAN VOWEL yAAdIdIIdUdUUdVOCALIC ReRReLeLLdEdEEdOdOObyRJES SU NGA ROcRNAM BCAD",
    "bVOWEL yREVERSED IeIIbyNYI ZLA NAA DAcSNA LDANbMARK HALANTAcPALUTAbyLCI RTAGScYANG RTAGS",
    "cLCE TSA CANcMCHU CANcGRU CAN RGYINGSdMED RGYINGScINVERTED MCHU CANbSUBJOINED yLCE TSA CAN",
    "dMCHU CANdINVERTED MCHU CANcmKAdKHAdGAdGHAdNGAdCAdCHAdJA"]⟩,
  ⟨0xf99,
   ["aTIBETAN SUBJOINED mNYAdTTAdTTHAdDDAdDDHAdNNAdTAdTHAdDAdDHAdNAdPAdPHAdBAdBHAdMAdTSAdTSHA",
    "dDZAdDZHAdWAdZHAdZAd-AdYAdRAdLAdSHAdSSAdSAdHAdAdKSSAdFIXED-FORM WAfYAfRA"]⟩,
  ⟨0xfbe,
   ["aTIBETAN KU RU KHAdKHA BZHI MIG CANbCANTILLATION yHEAVY BEATdLIGHT BEATdCANG TE-U",
    "dSBUB -CHALbSYMBOL DRIL BUcRDO RJEcPADMA GDANcRDO RJE RGYA GRAMcPHUR PAcNOR BU",
    "dBU NYIS -KHYILeGSUM -KHYILeBZHI -KHYIL"]⟩,
  ⟨0xfce,
   ["aTIBETAN yRDEL NAG RDEL DKAReGSUMbMARK BSKA- SHOG GI MGO RGYANcMNYAM YIG GI MGO RGYAN",
    "cNYIS TSHEGcINITIAL BRDA RNYING YIG MGO MDUN MAcCLOSING BRDA RNYING YIG MGO SGAB MA",
    "aRIGHT-FACING SVASTI SIGNaLEFT-FACING SVASTI SIGNaRIGHT-FACING SVASTI ynDOTS",
    "aLEFT-FACING SVASTI ynDOTSaTIBETAN MARK LEADING MCHAN RTAGScTRAILING MCHAN RTAGS"]⟩,
  ⟨0x1000,
   ["aMYANMAR mKAcKHAcGAcGHAcNGAcCAcCHAcJAcJHAcNYAcNNYAcTTAcTTHAcDDAcDDHAcNNAcTAcTHAcDAcDHAcNA",
    "cPAcPHAcBAcBHAcMAcYAcRAcLAcWAcSAcHAcLLAcAcSHAN AcIcIIcUcUUcEcMON EcOcAUbVOWEL yTALL AAdAAdI",
    "dIIdUdUUdEdAIdMON IIeOdE ABOVEbyANUSVARAcDOT BELOWcVISARGAcVIRAMAcASATbCONSONANT yMEDIAL YA",
    "eRAeWAeHAbmGREAT SAbDIGIT ZEROcONEcTWOcTHREEcFOURcFIVEcSIXcSEVENcEIGHTcNINEbyLITTLE SECTION",
    "cSECTIONbSYMBOL LOCATIVEcCOMPLETEDcAFOREMENTIONEDcGENITIVEbmSHAcSSAcVOCALIC RdRRdLdLL",
    "bVOWEL yVOCALIC ReRReLeLLbmMON NGAdJHAdBBAdBBEbCONSONANT yMON MEDIAL NAfMAfLA",
    "bmSGAW KAREN SHAbVOWEL ySGAW KAREN EUbTONE MARK SGAW KAREN HATHIfKE PHO",
    "bmWESTERN PWO KAREN THAfPWAbVOWEL yWESTERN PWO KAREN EUgUEbyWESTERN PWO KAREN TONE-1g2g3g4",
    "g5bmEASTERN PWO KAREN NNAfYWAfGHWAbVOWEL yGEBA KAREN IdKAYAH OEeUeEEbmSHAN KAdKHAdGAdCAdZA",
    "dNYAdDAdNAdPHAdFAdBAdTHAdHAbCONSONANT ySHAN MEDIAL WAbVOWEL ySHAN AAeEeE ABOVEeFINAL Y",
    "bySHAN TONE-2e3e5e6dCOUNCIL TONE-2f3eEMPHATIC TONEbmRUMAI PALAUNG FAbyRUMAI PALAUNG TONE-5",
    "bSHAN DIGIT ZEROdONEdTWOdTHREEdFOURdFIVEdSIXdSEVENdEIGHTdNINEbyKHAMTI TONE-1e3",
    "bVOWEL yAITON AeAIbSYMBOL SHAN ONEdEXCLAMATIONaGEORGIAN omANdBANdGANdDONdENdVINdZENdTANdIN",
    "dKANdLASdMANdNARdONdPARdZHARdRAEdSANdTARdUNdPHARdKHARdGHANdQARdSHINdCHINdCANdJILdCILdCHAR",
    "dXANdJHANdHAEdHEdHIEdWEdHARdHOE"]⟩,
  ⟨0x10c7, ["aGEORGIAN omYN"]⟩, ⟨0x10cd, ["aGEORGIAN omAEN"]⟩,
  ⟨0x10d0,
   ["aGEORGIAN mANcBANcGANcDONcENcVINcZENcTANcINcKANcLAScMANcNARcONcPARcZHARcRAEcSANcTARcUNcPHAR",
    "cKHARcGHANcQARcSHINcCHINcCANcJILcCILcCHARcXANcJHANcHAEcHEcHIEcWEcHARcHOEcFIcYNcELIFI",
    "cTURNED GANcAINbPARAGRAPH SEPARATORaMODIFIER mGEORGIAN NARaGEORGIAN mAENcHARD SIGN",
    "cLABIAL SIGNaHANGUL CHOSEONG KIYEOKcSSANGKIYEOKcNIEUNcTIKEUTcSSANGTIKEUTcRIEULcMIEUMcPIEUP",
    "cSSANGPIEUPcSIOScSSANGSIOScIEUNGcCIEUCcSSANGCIEUCcCHIEUCHcKHIEUKHcTHIEUTHcPHIEUPHcHIEUH",
    "cNIEUN-KIYEOKcSSANGNIEUNcNIEUN-TIKEUTdPIEUPcTIKEUT-KIYEOKcRIEUL-NIEUNcSSANGRIEUL",
    "cRIEUL-HIEUHcKAPYEOUNRIEULcMIEUM-PIEUPcKAPYEOUNMIEUMcPIEUP-KIYEOKdNIEUNdTIKEUTdSIOS",
    "dSIOS-KIYEOKeTIKEUTePIEUPdSSANGSIOSdSIOS-CIEUCdCIEUCdCHIEUCHdTHIEUTHdPHIEUPHcKAPYEOUNPIEUP",
    "cKAPYEOUNSSANGPIEUPcSIOS-KIYEOKdNIEUNdTIKEUTdRIEULdMIEUMdPIEUPdPIEUP-KIYEOKdSSANGSIOSdIEUNG",
    "dCIEUCdCHIEUCHdKHIEUKHdTHIEUTHdPHIEUPHdHIEUHcCHITUEUMSIOScCHITUEUMSSANGSIOScCEONGCHIEUMSIOS",
    "cCEONGCHIEUMSSANGSIOScPANSIOScIEUNG-KIYEOKdTIKEUTdMIEUMdPIEUPdSIOSdPANSIOScSSANGIEUNG",
    "cIEUNG-CIEUCdCHIEUCHdTHIEUTHdPHIEUPHcYESIEUNGcCIEUC-IEUNGcCHITUEUMCIEUCcCHITUEUMSSANGCIEUC",
    "cCEONGCHIEUMCIEUCcCEONGCHIEUMSSANGCIEUCcCHIEUCH-KHIEUKHdHIEUHcCHITUEUMCHIEUCH",
    "cCEONGCHIEUMCHIEUCHcPHIEUPH-PIEUPcKAPYEOUNPHIEUPHcSSANGHIEUHcYEORINHIEUHcKIYEOK-TIKEUT",
    "cNIEUN-SIOSdCIEUCdHIEUHcTIKEUT-RIEULcFILLERbJUNGSEONG FILLERcAcAEcYAcYAEcEOcEcYEOcYEcOcWA",
    "cWAEcOEcYOcUcWEOcWEcWIcYUcEUcYIcIcA-OdUcYA-OdYOcEO-OdUdEUcYEO-OdUcO-EOdEdYEdOdUcYO-YAdYAE",
    "dYEOdOdIcU-AdAEdEO-EUdYEdUcYU-AdEOdEdYEOdYEdUdIcEU-UdEUcYI-UcI-AdYAdOdUdEUdARAEAcARAEA",
    "cARAEA-EOdUdIcSSANGARAEAcA-EUcYA-UcYEO-YAcO-YAdYAEbJONGSEONG KIYEOKcSSANGKIYEOKcKIYEOK-SIOS",
    "cNIEUNcNIEUN-CIEUCdHIEUHcTIKEUTcRIEULcRIEUL-KIYEOKdMIEUMdPIEUPdSIOSdTHIEUTHdPHIEUPHdHIEUH",
    "cMIEUMcPIEUPcPIEUP-SIOScSIOScSSANGSIOScIEUNGcCIEUCcCHIEUCHcKHIEUKHcTHIEUTHcPHIEUPHcHIEUH",
    "cKIYEOK-RIEULdSIOS-KIYEOKcNIEUN-KIYEOKdTIKEUTdSIOSdPANSIOSdTHIEUTHcTIKEUT-KIYEOKdRIEUL",
    "cRIEUL-KIYEOK-SIOSdNIEUNdTIKEUTdTIKEUT-HIEUHcSSANGRIEULcRIEUL-MIEUM-KIYEOKeSIOSdPIEUP-SIOS",
    "eHIEUHdKAPYEOUNPIEUPdSSANGSIOSdPANSIOSdKHIEUKHdYEORINHIEUHcMIEUM-KIYEOKdRIEULdPIEUPdSIOS",
    "dSSANGSIOSdPANSIOSdCHIEUCHdHIEUHcKAPYEOUNMIEUMcPIEUP-RIEULdPHIEUPHdHIEUHcKAPYEOUNPIEUP",
    "cSIOS-KIYEOKdTIKEUTdRIEULdPIEUPcPANSIOScIEUNG-KIYEOKdSSANGKIYEOKcSSANGIEUNGcIEUNG-KHIEUKH",
    "cYESIEUNGcYESIEUNG-SIOSdPANSIOScPHIEUPH-PIEUPcKAPYEOUNPHIEUPHcHIEUH-NIEUNdRIEULdMIEUMdPIEUP",
    "cYEORINHIEUHcKIYEOK-NIEUNdPIEUPdCHIEUCHdKHIEUKHdHIEUHcSSANGNIEUNaETHIOPIC SYLLABLE HAcHUcHI",
    "cHAAcHEEcHEcHOcHOAcLAcLUcLIcLAAcLEEcLEcLOcLWAcHHAcHHUcHHIcHHAAcHHEEcHHEcHHOcHHWAcMAcMUcMI",
    "cMAAcMEEcMEcMOcMWAcSZAcSZUcSZIcSZAAcSZEEcSZEcSZOcSZWAcRAcRUcRIcRAAcREEcREcROcRWAcSAcSUcSI",
    "cSAAcSEEcSEcSOcSWAcSHAcSHUcSHIcSHAAcSHEEcSHEcSHOcSHWAcQAcQUcQIcQAAcQEEcQEcQOcQOAcQWA"]⟩,
  ⟨0x124a, ["aETHIOPIC SYLLABLE QWIcQWAAcQWEEcQWE"]⟩,
  ⟨0x1250, ["aETHIOPIC SYLLABLE QHAcQHUcQHIcQHAAcQHEEcQHEcQHO"]⟩,
  ⟨0x1258, ["aETHIOPIC SYLLABLE QHWA"]⟩, ⟨0x125a, ["aETHIOPIC SYLLABLE QHWIcQHWAAcQHWEEcQHWE"]⟩,
  ⟨0x1260,
   ["aETHIOPIC SYLLABLE BAcBUcBIcBAAcBEEcBEcBOcBWAcVAcVUcVIcVAAcVEEcVEcVOcVWAcTAcTUcTIcTAAcTEE",
    "cTEcTOcTWAcCAcCUcCIcCAAcCEEcCEcCOcCWAcXAcXUcXIcXAAcXEEcXEcXOcXOAcXWA"]⟩,
  ⟨0x128a, ["aETHIOPIC SYLLABLE XWIcXWAAcXWEEcXWE"]⟩,
  ⟨0x1290,
   ["aETHIOPIC SYLLABLE NAcNUcNIcNAAcNEEcNEcNOcNWAcNYAcNYUcNYIcNYAAcNYEEcNYEcNYOcNYWAcGLOTTAL A",
    "dUdIdAAdEEdEdOdWAcKAcKUcKIcKAAcKEEcKEcKOcKOAcKWA"]⟩,
  ⟨0x12b2, ["aETHIOPIC SYLLABLE KWIcKWAAcKWEEcKWE"]⟩,
  ⟨0x12b8, ["aETHIOPIC SYLLABLE KXAcKXUcKXIcKXAAcKXEEcKXEcKXO"]⟩,
  ⟨0x12c0, ["aETHIOPIC SYLLABLE KXWA"]⟩, ⟨0x12c2, ["aETHIOPIC SYLLABLE KXWIcKXWAAcKXWEEcKXWE"]⟩,
  ⟨0x12c8, ["aETHIOPIC SYLLABLE WAcWUcWIcWAAcWEEcWEcWOcWOAcPHARYNGEAL AdUdIdAAdEEdEdO"]⟩,
  ⟨0x12d8,
   ["aETHIOPIC SYLLABLE ZAcZUcZIcZAAcZEEcZEcZOcZWAcZHAcZHUcZHIcZHAAcZHEEcZHEcZHOcZHWAcYAcYUcYI",
    "cYAAcYEEcYEcYOcYOAcDAcDUcDIcDAAcDEEcDEcDOcDWAcDDAcDDUcDDIcDDAAcDDEEcDDEcDDOcDDWAcJAcJUcJI",
    "cJAAcJEEcJEcJOcJWAcGAcGUcGIcGAAcGEEcGEcGOcGOAcGWA"]⟩,
  ⟨0x1312, ["aETHIOPIC SYLLABLE GWIcGWAAcGWEEcGWE"]⟩,
  ⟨0x1318,
   ["aETHIOPIC SYLLABLE GGAcGGUcGGIcGGAAcGGEEcGGEcGGOcGGWAAcTHAcTHUcTHIcTHAAcTHEEcTHEcTHOcTHWA",
    "cCHAcCHUcCHIcCHAAcCHEEcCHEcCHOcCHWAcPHAcPHUcPHIcPHAAcPHEEcPHEcPHOcPHWAcTSAcTSUcTSIcTSAA",
    "cTSEEcTSEcTSOcTSWAcTZAcTZUcTZIcTZAAcTZEEcTZEcTZOcTZOAcFAcFUcFIcFAAcFEEcFEcFOcFWAcPAcPUcPI",
    "cPAAcPEEcPEcPOcPWAcRYAcMYAcFYA"]⟩,
  ⟨0x135d,
   ["aETHIOPIC COMBINING GEMINATION tVOWEL LENGTH MARKcVOWEL LENGTH MARKcGEMINATION MARK",
    "bSECTION MARKbWORDSPACEbFULL STOPbCOMMAbSEMICOLONbCOLONbPREFACE COLONbQUESTION MARK",
    "bPARAGRAPH SEPARATORbDIGIT ONEcTWOcTHREEcFOURcFIVEcSIXcSEVENcEIGHTcNINEbNUMBER TENcTWENTY",
    "cTHIRTYcFORTYcFIFTYcSIXTYcSEVENTYcEIGHTYcNINETYcHUNDREDcTEN THOUSAND"]⟩,
  ⟨0x1380,
   ["aETHIOPIC SYLLABLE SEBATBEIT MWAcMWIcMWEEcMWEcSEBATBEIT BWAcBWIcBWEEcBWEcSEBATBEIT FWAcFWI",
    "cFWEEcFWEcSEBATBEIT PWAcPWIcPWEEcPWEbTONAL MARK YIZETdDERETdRIKRIKdSHORT RIKRIKdDIFATdKENAT",
    "dCHIRETdHIDETdDERET-HIDETdKURT"]⟩,
  ⟨0x13a0,
   ["aCHEROKEE mAcEcIcOcUcVcGAcKAcGEcGIcGOcGUcGVcHAcHEcHIcHOcHUcHVcLAcLEcLIcLOcLUcLVcMAcMEcMIcMO",
    "cMUcNAcHNAcNAHcNEcNIcNOcNUcNVcQUAcQUEcQUIcQUOcQUUcQUVcSAcScSEcSIcSOcSUcSVcDAcTAcDEcTEcDIcTI",
    "cDOcDUcDVcDLAcTLAcTLEcTLIcTLOcTLUcTLVcTSAcTSEcTSIcTSOcTSUcTSVcWAcWEcWIcWOcWUcWVcYAcYEcYIcYO",
    "cYUcYVcMV"]⟩,
  ⟨0x13f8, ["aCHEROKEE pmYEdYIdYOdYUdYVdMV"]⟩,
  ⟨0x1400,
   ["aCANADIAN SYLLABICS HYPHENcEcAAIcIcIIcOcOOcY-CREE OOcCARRIER EEdIcAcAAcWEcWEST-CREE WEcWI",
    "cWEST-CREE WIcWIIcWEST-CREE WIIcWOcWEST-CREE WOcWOOcWEST-CREE WOOcNASKAPI WOOcWA",
    "cWEST-CREE WAcWAAcWEST-CREE WAAcNASKAPI WAAcAIcY-CREE WcGLOTTAL STOPcFINAL ACUTEdGRAVE",
    "dBOTTOM HALF RINGdTOP HALF RINGduHALF RINGdRINGdwACUTEeSHORT VERTICAL STROKESdMIDDLE DOT",
    "dSHORT HORIZONTAL STROKEdPLUSdDOWN TACKcENcINcONcANcPEcPAAIcPIcPIIcPOcPOOcY-CREE POO",
    "cCARRIER HEEdHIcPAcPAAcPWEcWEST-CREE PWEcPWIcWEST-CREE PWIcPWIIcWEST-CREE PWIIcPWO",
    "cWEST-CREE PWOcPWOOcWEST-CREE PWOOcPWAcWEST-CREE PWAcPWAAcWEST-CREE PWAAcY-CREE PWAAcP",
    "cWEST-CREE PcCARRIER HcTEcTAAIcTIcTIIcTOcTOOcY-CREE TOOcCARRIER DEEdDIcTAcTAAcTWE",
    "cWEST-CREE TWEcTWIcWEST-CREE TWIcTWIIcWEST-CREE TWIIcTWOcWEST-CREE TWOcTWOOcWEST-CREE TWOO",
    "cTWAcWEST-CREE TWAcTWAAcWEST-CREE TWAAcNASKAPI TWAAcTcTTEcTTIcTTOcTTAcKEcKAAIcKIcKIIcKOcKOO",
    "cY-CREE KOOcKAcKAAcKWEcWEST-CREE KWEcKWIcWEST-CREE KWIcKWIIcWEST-CREE KWIIcKWO",
    "cWEST-CREE KWOcKWOOcWEST-CREE KWOOcKWAcWEST-CREE KWAcKWAAcWEST-CREE KWAAcNASKAPI KWAAcKcKW",
    "cSOUTH-SLAVEY KEHeKIHeKOHeKAHcCEcCAAIcCIcCIIcCOcCOOcY-CREE COOcCAcCAAcCWEcWEST-CREE CWEcCWI",
    "cWEST-CREE CWIcCWIIcWEST-CREE CWIIcCWOcWEST-CREE CWOcCWOOcWEST-CREE CWOOcCWAcWEST-CREE CWA",
    "cCWAAcWEST-CREE CWAAcNASKAPI CWAAcCcSAYISI THcMEcMAAIcMIcMIIcMOcMOOcY-CREE MOOcMAcMAAcMWE",
    "cWEST-CREE MWEcMWIcWEST-CREE MWIcMWIIcWEST-CREE MWIIcMWOcWEST-CREE MWOcMWOOcWEST-CREE MWOO",
    "cMWAcWEST-CREE MWAcMWAAcWEST-CREE MWAAcNASKAPI MWAAcMcWEST-CREE McMHcATHAPASCAN McSAYISI M",
    "cNEcNAAIcNIcNIIcNOcNOOcY-CREE NOOcNAcNAAcNWEcWEST-CREE NWEcNWAcWEST-CREE NWAcNWAA",
    "cWEST-CREE NWAAcNASKAPI NWAAcNcCARRIER NGcNHcLEcLAAIcLIcLIIcLOcLOOcY-CREE LOOcLAcLAAcLWE",
    "cWEST-CREE LWEcLWIcWEST-CREE LWIcLWIIcWEST-CREE LWIIcLWOcWEST-CREE LWOcLWOOcWEST-CREE LWOO",
    "cLWAcWEST-CREE LWAcLWAAcWEST-CREE LWAAcLcWEST-CREE LcMEDIAL LcSEcSAAIcSIcSIIcSOcSOO",
    "cY-CREE SOOcSAcSAAcSWEcWEST-CREE SWEcSWIcWEST-CREE SWIcSWIIcWEST-CREE SWIIcSWO",
    "cWEST-CREE SWOcSWOOcWEST-CREE SWOOcSWAcWEST-CREE SWAcSWAAcWEST-CREE SWAAcNASKAPI SWAAcS",
    "cATHAPASCAN ScSWcBLACKFOOT ScMOOSE-CREE SKcNASKAPI SKWdS-WdSPWAdSTWAdSKWAdSCWAcSHEcSHIcSHII",
    "cSHOcSHOOcSHAcSHAAcSHWEcWEST-CREE SHWEcSHWIcWEST-CREE SHWIcSHWIIcWEST-CREE SHWIIcSHWO",
    "cWEST-CREE SHWOcSHWOOcWEST-CREE SHWOOcSHWAcWEST-CREE SHWAcSHWAAcWEST-CREE SHWAAcSHcYEcYAAI",
    "cYIcYIIcYOcYOOcY-CREE YOOcYAcYAAcYWEcWEST-CREE YWEcYWIcWEST-CREE YWIcYWIIcWEST-CREE YWII",
    "cYWOcWEST-CREE YWOcYWOOcWEST-CREE YWOOcYWAcWEST-CREE YWAcYWAAcWEST-CREE YWAAcNASKAPI YWAAcY",
    "cBIBLE-CREE YcWEST-CREE YcSAYISI YIcREcR-CREE REcWEST-CREE LEcRAAIcRIcRIIcROcROO",
    "cWEST-CREE LOcRAcRAAcWEST-CREE LAcRWAAcWEST-CREE RWAAcRcWEST-CREE RcMEDIAL RcFEcFAAIcFIcFII",
    "cFOcFOOcFAcFAAcFWAAcWEST-CREE FWAAcFcTHEcN-CREE THEcTHIcN-CREE THIcTHIIcN-CREE THIIcTHO",
    "cTHOOcTHAcTHAAcTHWAAcWEST-CREE THWAAcTHcTTHEcTTHIcTTHOcTTHAcTTHcTYEcTYIcTYOcTYAcNUNAVIK HE",
    "dHIdHIIdHOdHOOdHAdHAAdHcNUNAVUT HcHKcQAAIcQIcQIIcQOcQOOcQAcQAAcQcTLHEcTLHIcTLHOcTLHA",
    "cWEST-CREE REeRIeROeRAcNGAAIcNGIcNGIIcNGOcNGOOcNGAcNGAAcNGcNNGcSAYISI SHEdSHIdSHOdSHA",
    "cWOODS-CREE THEeTHIeTHOeTHAeTHcLHIcLHIIcLHOcLHOOcLHAcLHAAcLHcTH-CREE THEeTHIeTHIIeTHOeTHOO",
    "eTHAeTHAAeTHcAIVILIK BcBLACKFOOT EdIdOdAdWEdWIdWOdWAdNEdNIdNOdNAdKEdKIdKOdKAcSAYISI HEdHI",
    "dHOdHAcCARRIER GHUdGHOdGHEdGHEEdGHIdGHAdRUdROdREdREEdRIdRAdWUdWOdWEdWEEdWIdWAdHWUdHWOdHWE",
    "dHWEEdHWIdHWAdTHUdTHOdTHEdTHEEdTHIdTHAdTTUdTTOdTTEdTTEEdTTIdTTAdPUdPOdPEdPEEdPIdPAdPdGUdGO",
    "dGEdGEEdGIdGAdKHUdKHOdKHEdKHEEdKHIdKHAdKKUdKKOdKKEdKKEEdKKIdKKAdKKdNUdNOdNEdNEEdNIdNAdMUdMO",
    "dMEdMEEdMIdMAdYUdYOdYEdYEEdYIdYAdJUcSAYISI JUcCARRIER JOdJEdJEEdJIcSAYISI JIcCARRIER JAdJJU",
    "dJJOdJJEdJJEEdJJIdJJAdLUdLOdLEdLEEdLIdLAdDLUdDLOdDLEdDLEEdDLIdDLAdLHUdLHOdLHEdLHEEdLHIdLHA",
    "dTLHUdTLHOdTLHEdTLHEEdTLHIdTLHAdTLUdTLOdTLEdTLEEdTLIdTLAdZUdZOdZEdZEEdZIdZAdZdINITIAL ZdDZU",
    "dDZOdDZEdDZEEdDZIdDZAdSUdSOdSEdSEEdSIdSAdSHUdSHOdSHEdSHEEdSHIdSHAdSHdTSUdTSOdTSEdTSEEdTSI",
    "dTSAdCHUdCHOdCHEdCHEEdCHIdCHAdTTSUdTTSOdTTSEdTTSEEdTTSIdTTSAcCHI SIGNcFULL STOPcQAIcNGAI",
    "cNNGIcNNGIIcNNGOcNNGOOcNNGAcNNGAAcWOODS-CREE THWEEeTHWIeTHWIIeTHWOeTHWOOeTHWAeTHWAA",
    "eFINAL THcBLACKFOOT WaOGHAM SPACE MARKbmBEITHcLUIScFEARNcSAILcNIONcUATHcDAIRcTINNEcCOLL",
    "cCEIRTcMUINcGORTcNGEADALcSTRAIFcRUIScAILMcONNcURcEADHADHcIODHADHcEABHADHcORcUILLEANNcIFIN",
    "cEAMHANCHOLLcPEITHbFEATHER MARKbREVERSED FEATHER MARK"]⟩,
  ⟨0x16a0,
   ["aRUNIC mFEHU FEOH FE FcVcURUZ UR UcYRcYcWcTHURISAZ THURS THORNcETHcANSUZ AcOS OcAC AcAESC",
    "cLONG-BRANCH-OSS OcSHORT-TWIG-OSS OcOcOEcONcRAIDO RAD REID RcKAUNAcCENcKAUN KcGcENG",
    "cGEBO GYFU GcGARcWUNJO WYNN WcHAGLAZ HcHAEGL HcLONG-BRANCH-HAGALL HcSHORT-TWIG-HAGALL H",
    "cNAUDIZ NYD NAUD NcSHORT-TWIG-NAUD NcDOTTED-NcISAZ IS ISS IcEcJERAN JcGERcLONG-BRANCH-AR AE",
    "cSHORT-TWIG-AR AcIWAZ EOHcPERTHO PEORTH PcALGIZ EOLHXcSOWILO ScSIGEL LONG-BRANCH-SOL S",
    "cSHORT-TWIG-SOL ScCcZcTIWAZ TIR TYR TcSHORT-TWIG-TYR TcDcBERKANAN BEORC BJARKAN B",
    "cSHORT-TWIG-BJARKAN BcDOTTED-PcOPEN-PcEHWAZ EH EcMANNAZ MAN McLONG-BRANCH-MADR M",
    "cSHORT-TWIG-MADR McLAUKAZ LAGU LOGR LcDOTTED-LcINGWAZcINGcDAGAZ DAEG DcOTHALAN ETHEL OcEAR",
    "cIORcCWEORTHcCALCcCEALCcSTANcLONG-BRANCH-YRcSHORT-TWIG-YRcICELANDIC-YRcQcX",
    "bSINGLE PUNCTUATIONbMULTIPLE PUNCTUATIONbCROSS PUNCTUATIONbARLAUG SYMBOLbTVIMADUR SYMBOL",
    "bBELGTHOR SYMBOLbmKcSHcOOcFRANKS CASKET OSeISeEHeACeAESC"]⟩,
  ⟨0x1700,
   ["aTAGALOG mAcIcUcKAcGAcNGAcTAcDAcNAcPAcBAcMAcYAcRAcLAcWAcSAcHAbVOWEL yIdUbyVIRAMAcPAMUDPOD"]⟩,
  ⟨0x171f,
   ["aTAGALOG mARCHAIC RAaHANUNOO mAcIcUcKAcGAcNGAcTAcDAcNAcPAcBAcMAcYAcRAcLAcWAcSAcHAbVOWEL yI",
    "dUbyPAMUDPODaPHILIPPINE SINGLE PUNCTUATIONbwPUNCTUATION"]⟩,
  ⟨0x1740, ["aBUHID mAcIcUcKAcGAcNGAcTAcDAcNAcPAcBAcMAcYAcRAcLAcWAcSAcHAbVOWEL yIdU"]⟩,
  ⟨0x1760, ["aTAGBANWA mAcIcUcKAcGAcNGAcTAcDAcNAcPAcBAcMAcYA"]⟩, ⟨0x176e, ["aTAGBANWA mLAcWAcSA"]⟩,
  ⟨0x1772, ["aTAGBANWA VOWEL yIdU"]⟩,
  ⟨0x1780,
   ["aKHMER mKAcKHAcKOcKHOcNGOcCAcCHAcCOcCHOcNYOcDAcTTHAcDOcTTHOcNNOcTAcTHAcTOcTHOcNOcBAcPHAcPO",
    "cPHOcMOcYOcROcLOcVOcSHAcSSOcSAcHAcLAcQAbINDEPENDENT VOWEL QAQdQAAdQIdQIIdQUdQUKdQUUdQUUVdRY",
    "dRYYdLYdLYYdQEdQAIdQOO TYPE ONEfTWOdQAUbVOWEL INHERENT AQdAAcyAAdIdIIdYdYYdUdUUdUAdOEdYAdIE",
    "dEdAEdAIdOOdAUbyNIKAHITcREAHMUKcYUUKALEAPINTUcMUUSIKATOANcTRIISAPcBANTOCcROBATcTOANDAKHIAT",
    "cKAKABATcAHSDAcSAMYOK SANNYAcVIRIAMcCOENGcBATHAMASATcKHANcBARIYOOSANcCAMNUC PII KUUH",
    "cLEK TOOcBEYYALcPHNAEK MUANcKOOMUUTbCURRENCY SYMBOL RIELbyAVAKRAHASANYAcATTHACAN"]⟩,
  ⟨0x17e0, ["aKHMER DIGIT ZEROcONEcTWOcTHREEcFOURcFIVEcSIXcSEVENcEIGHTcNINE"]⟩,
  ⟨0x17f0, ["aKHMER SYMBOL LEK ATTAK SONeMUOYePIIeBEIeBUONePRAMePRAM-MUOYfPIIfBEIfBUON"]⟩,
  ⟨0x1800,
   ["aMONGOLIAN BIRGAbELLIPSISbCOMMAbFULL STOPbCOLONbFOUR DOTSbTODO SOFT HYPHEN",
    "bSIBE SYLLABLE BOUNDARY MARKERbMANCHU COMMAcFULL STOPbNIRUGUbFREE VARIATION SELECTOR ONE",
    "eTWOeTHREEbVOWEL SEPARATORbFREE VARIATION SELECTOR FOURbDIGIT ZEROcONEcTWOcTHREEcFOURcFIVE",
    "cSIXcSEVENcEIGHTcNINE"]⟩,
  ⟨0x1820,
   ["aMONGOLIAN mAcEcIcOcUcOEcUEcEEcNAcANGcBAcPAcQAcGAcMAcLAcSAcSHAcTAcDAcCHAcJAcYAcRAcWAcFAcKA",
    "cKHAcTSAcZAcHAAcZRAcLHAcZHIcCHIcTODO LONG VOWEL SIGNdEdIdOdUdOEdUEdANGdBAdPAdQAdGAdMAdTAdDA",
    "dCHAdJAdTSAdYAdWAdKAdGAAdHAAdJIAdNIAdDZAcSIBE EdIdIYdUEdUdANGdKAdGAdHAdPAdSHAdTAdDAdJAdFA",
    "dGAAdHAAdTSAdZAdRAAdCHAdZHAcMANCHU IdKAdRAdFAdZHAcCHA nTWO DOTS"]⟩,
  ⟨0x1880,
   ["aMONGOLIAN mALI GALI ANUSVARA ONEeVISARGA ONEeDAMARUeUBADAMAeINVERTED UBADAMAeBALUDA",
    "eTHREE BALUDAeAeIeKAeNGAeCAeTTAeTTHAeDDAeNNAeTAeDAePAePHAeSSAeZHAeZAeAHcTODO ALI GALI TA",
    "fZHAcMANCHU ALI GALI GHAfNGAfCAfJHAfTTAfDDHAfTAfDHAfSSAfCYAfZHAfZAcALI GALI HALF UfYA",
    "cMANCHU ALI GALI BHAcALI GALI DAGALGAcMANCHU ALI GALI LHA"]⟩,
  ⟨0x18b0,
   ["aCANADIAN SYLLABICS OYcAYcAAYcWAYcPOYcPAYcPWOYcTAYcKAYcKWAYcMAYcNOYcNAYcLAYcSOYcSAYcSHOY",
    "cSHAYcSHWOYcYOYcYAYcRAYcNWIcOJIBWAY NWIcNWIIcOJIBWAY NWIIcNWOcOJIBWAY NWOcNWOOcOJIBWAY NWOO",
    "cRWEEcRWIcRWIIcRWOcRWOOcRWAcOJIBWAY PdTdKdCdMdNdSdSHcEASTERN WcWESTERN WcFINAL pRING",
    "dRAISED DOTcR-CREE RWEcWEST-CREE LOOeLAAcTHWEcTHWAcTTHWEcTTHOOcTTHAAcTLHWEcTLHOO",
    "cSAYISI SHWEdSHOOdHOOcCARRIER GWUdDENE GEEdGAAdGWAcSAYISI JUUcCARRIER JWAcBEAVER DENE LeR",
    "cCARRIER DENTAL S"]⟩,
  ⟨0x1900,
   ["aLIMBU VOWEL-CARRIER LETTERbmKAcKHAcGAcGHAcNGAcCAcCHAcJAcJHAcYANcTAcTHAcDAcDHAcNAcPAcPHAcBA",
    "cBHAcMAcYAcRAcLAcWAcSHAcSSAcSAcHAcGYANcTRA"]⟩,
  ⟨0x1920, ["aLIMBU VOWEL yAdIdUdEEdAIdOOdAUdEdObSUBJOINED mYAdRAdWA"]⟩,
  ⟨0x1930, ["aLIMBU pmKAdNGAdANUSVARAdTAdNAdPAdMAdRAdLAbyMUKPHRENGcKEMPHRENGcSA-I"]⟩,
  ⟨0x1940, ["aLIMBU yLOO"]⟩,
  ⟨0x1944,
   ["aLIMBU EXCLAMATION MARKbQUESTION MARKbDIGIT ZEROcONEcTWOcTHREEcFOURcFIVEcSIXcSEVENcEIGHT",
    "cNINEaTAI LE mKAdXAdNGAdTSAdSAdYAdTAdTHAdLAdPAdPHAdMAdFAdVAdHAdQAdKHAdTSHAdNAdAdIdEEdEHdU",
    "dOOdOdUEdEdAUEdAI"]⟩,
  ⟨0x1970, ["aTAI LE mTONE-2e3e4e5e6"]⟩,
  ⟨0x1980,
   ["aNEW TAI LUE mHIGH QAeLOW QAeHIGH KAfXAfNGAeLOW KAfXAfNGAeHIGH TSAfSAfYAeLOW TSAfSAfYA",
    "eHIGH TAfTHAfNAeLOW TAfTHAfNAeHIGH PAfPHAfMAeLOW PAfPHAfMAeHIGH FAfVAfLAeLOW FAfVAfLA",
    "eHIGH HAfDAfBAeLOW HAfDAfBAeHIGH KVAfXVAeLOW KVAfXVAeHIGH SUAeLOW SUA"]⟩,
  ⟨0x19b0,
   ["aNEW TAI LUE VOWEL yVOWEL SHORTENERfAAfIIfUfUUfEfAEfOfOAfUEfAYfAAYfUYfOYfOAYfUEYfIY",
    "dmFINAL VfNGfNfMfKfDfBdTONE MARK-1f2"]⟩,
  ⟨0x19d0, ["aNEW TAI LUE DIGIT ZEROeONEeTWOeTHREEeFOUReFIVEeSIXeSEVENeEIGHTeNINEdTHAM DIGIT ONE"]⟩,
  ⟨0x19de,
   ["aNEW TAI LUE yLAEeLAEVaKHMER SYMBOL PATHAMASATcMUOY KOETcPII KOETcBEI KOETcBUON KOET",
    "cPRAM KOETcPRAM-MUOY KOETdPII KOETdBEI KOETdBUON KOETcDAP KOETcDAP-MUOY KOETdPII KOET",
    "dBEI KOETdBUON KOETdPRAM KOETcTUTEYASATcMUOY ROCcPII ROCcBEI ROCcBUON ROCcPRAM ROC",
    "cPRAM-MUOY ROCdPII ROCdBEI ROCdBUON ROCcDAP ROCcDAP-MUOY ROCdPII ROCdBEI ROCdBUON ROC",
    "dPRAM ROCaBUGINESE mKAcGAcNGAcNGKAcPAcBAcMAcMPAcTAcDAcNAcNRAcCAcJAcNYAcNYCAcYAcRAcLAcVAcSA",
    "cAcHAbVOWEL yIdUdEdOdAE"]⟩,
  ⟨0x1a1e,
   ["aBUGINESE PALLAWAbEND OF SECTIONaTAI THAM mHIGH KAeKHAeKXAdLOW KAeKXAeKHAdNGAdHIGH CAeCHA",
    "dLOW CAeSAeCHAdNYAdRATAdHIGH RATHAdDAdLOW RATHAdRANAdHIGH TAeTHAdLOW TAeTHAdNAdBAdHIGH PA",
    "ePHAeFAdLOW PAeFAePHAdMAdLOW YAdHIGH YAdRAdRUEdLAdLUEdWAdHIGH SHAeSSAeSAeHAdLLAdAdLOW HAdI",
    "dIIdUdUUdEEdOOdLAEdGREAT SAcCONSONANT yMEDIAL RAfLAeLA TANG LAIcyMAI KANG LAI",
    "cCONSONANT yFINAL NGAeLOW PAeHIGH RATHA OR LOW PAeMAeBAeSA"]⟩,
  ⟨0x1a60,
   ["aTAI THAM ySAKOTcVOWEL yAeMAI SATeAAeTALL AAeIeIIeUEeUUEeUeUUeOeOA BELOWeOYeEeAEeOOeAI",
    "eTHAM AIeOA ABOVEcyMAI KANGdTONE-1e2dKHUEN TONE-3f4f5dRA HAAMdMAI SAMdKHUEN-LUE KARAN"]⟩,
  ⟨0x1a7f,
   ["aTAI THAM COMBINING CRYPTOGRAMMIC DOTcHORA DIGIT ZEROeONEeTWOeTHREEeFOUReFIVEeSIXeSEVEN",
    "eEIGHTeNINE"]⟩,
  ⟨0x1a90, ["aTAI THAM THAM DIGIT ZEROeONEeTWOeTHREEeFOUReFIVEeSIXeSEVENeEIGHTeNINE"]⟩,
  ⟨0x1aa0,
   ["aTAI THAM yWIANGdWIANGWAAKdSAWANdKEOWdHOYdDOKMAIdREVERSED ROTATED RANAdMAI YAMOKdKAAN",
    "dKAANKUUdSATKAANdSATKAANKUUdHANGdCAANG"]⟩,
  ⟨0x1ab0,
   ["aCOMBINING DOUBLED CIRCUMFLEX ACCENTbDIAERESIS-RINGbINFINITYbDOWNWARDS zbTRIPLE DOT",
    "bX-X BELOWbWIGGLY LINE BELOWbOPEN MARK BELOWbwOPEN MARK BELOW",
    "bLIGHT CENTRALIZATION STROKE BELOWbSTRONG CENTRALIZATION STROKE BELOWbPARENTHESES ABOVE",
    "bwPARENTHESES ABOVEbPARENTHESES BELOWcOVERLAYbLATIN pmW BELOWeTURNED W BELOW",
    "bxPARENTHESIS ABOVE LEFTbuPARENTHESIS ABOVE RIGHTbxPARENTHESIS BELOW LEFT",
    "buPARENTHESIS BELOW RIGHTbSQUARE BRACKETS ABOVEbNUMBER yABOVEbINVERTED wARCH ABOVE",
    "bPLUS yABOVEbwPLUS yABOVEeBELOWbTRIPLE ACUTE ACCENTbLATIN pmINSULAR GfRfT"]⟩,
  ⟨0x1b00,
   ["aBALINESE yULU RICEMdCANDRAcCECEKcSURANGcBISAHbmAKARAcAKARA TEDUNGcIKARAcIKARA TEDUNGcUKARA",
    "cUKARA TEDUNGcRA REPAdREPA TEDUNGcLA LENGAdLENGA TEDUNGcEKARAcAIKARAcOKARAcOKARA TEDUNGcKA",
    "cKA MAHAPRANAcGAcGA GORAcNGAcCAcCA LACAcJAcJA JERAcNYAcTA LATIKdMURDA MAHAPRANA",
    "cDA MURDA ALPAPRANAeMAHAPRANAcNA RAMBATcTAcTA TAWAcDAcDA MADUcNAcPAcPA KAPALcBAcBA KEMBANG",
    "cMAcYAcRAcLAcWAcSA SAGAdSAPAcSAcHAbyREREKANbVOWEL yTEDUNGdULUdULU SARIdSUKUdSUKU ILUT",
    "dRA REPAeREPA TEDUNGdLA LENGAeLENGA TEDUNGdTALINGdTALING REPAeTEDUNGeREPA TEDUNGdPEPET",
    "dPEPET TEDUNGbADEG ADEGbmKAF SASAKcKHOT SASAKcTZIR SASAKcEF SASAKcVE SASAKcZAL SASAK",
    "cASYURA SASAKcARCHAIC JNYA"]⟩,
  ⟨0x1b50,
   ["aBALINESE DIGIT ZEROcONEcTWOcTHREEcFOURcFIVEcSIXcSEVENcEIGHTcNINEbPANTIbPAMADAbWINDU",
    "bCARIK PAMUNGKAHcSIKIcPARERENbPAMENENGbMUSICAL SYMBOL DONGdDENGdDUNGdDANGdDANG SURANGdDING",
    "dDAENGdDEUNGdDAINGdDANG GEDEdCOMBINING TEGEHeENDEPeKEMPULeKEMPLIeJEGOGANeKEMPUL nJEGOGAN",
    "eKEMPLI nJEGOGANeBENDEeGONGdRIGHT-HAND OPEN DUGgDAGfCLOSED TUKgTAKdLEFT-HAND OPEN PANGgPUNG",
    "fCLOSED PLAKgPLUKfOPEN PINGbPANTI LANTANGbPAMADA LANTANG"]⟩,
  ⟨0x1b80,
   ["aSUNDANESE yPANYECEKcPANGLAYARcPANGWISADbmAcIcUcAEcOcEcEUcKAcQAcGAcNGAcCAcJAcZAcNYAcTAcDA",
    "cNAcPAcFAcVAcBAcMAcYAcRAcLAcWAcSAcXAcHAbCONSONANT yPAMINGKALdPANYAKRAdPANYIKU",
    "bVOWEL yPANGHULUdPANYUKUdPANAELAENGdPANOLONGdPAMEPETdPANEULEUNGbyPAMAAEHcVIRAMA",
    "bCONSONANT yPASANGAN MAeWAbmKHAcSYAbDIGIT ZEROcONEcTWOcTHREEcFOURcFIVEcSIXcSEVENcEIGHTcNINE",
    "bAVAGRAHAbmREUcLEUcBHAcFINAL KdMaBATAK mAcSIMALUNGUN AcHAcSIMALUNGUN HAcMANDAILING HAcBA",
    "cKARO BAcPAcSIMALUNGUN PAcNAcMANDAILING NAcWAcSIMALUNGUN WAcPAKPAK WAcGAcSIMALUNGUN GAcJA",
    "cDAcRAcSIMALUNGUN RAcMAcSIMALUNGUN MAcSOUTHERN TAcNORTHERN TAcSAcSIMALUNGUN SA",
    "cMANDAILING SAcYAcSIMALUNGUN YAcNGAcLAcSIMALUNGUN LAcNYAcCAcNDAcMBAcIcUbyTOMPIbVOWEL yE",
    "dPAKPAK EdEEdIdKARO IdOdKARO OdUdU FOR SIMALUNGUN SAbCONSONANT yNGdHbPANGOLATbPANONGONAN"]⟩,
  ⟨0x1bfc,
   ["aBATAK SYMBOL BINDU NA METEKdPINARBORASdJUDULdPANGOLATaLEPCHA mKAcKLAcKHAcGAcGLAcNGAcCAcCHA",
    "cJAcNYAcTAcTHAcDAcNAcPAcPLAcPHAcFAcFLAcBAcBLAcMAcMLAcTSAcTSHAcDZAcYAcRAcLAcHAcHLAcVAcSAcSHA",
    "cWAcAbSUBJOINED mYAdRAbVOWEL yAAdIdOdOOdUdUUdEbCONSONANT yKdMdLdNdPdRdTdNYIN-DOdKANGbyRAN",
    "cNUKTA"]⟩,
  ⟨0x1c3b,
   ["aLEPCHA PUNCTUATION TA-ROLcNYET THYOOM TA-ROLcCER-WAcTSHOOK CER-WAcTSHOOKbDIGIT ZEROcONE",
    "cTWOcTHREEcFOURcFIVEcSIXcSEVENcEIGHTcNINE"]⟩,
  ⟨0x1c4d,
   ["aLEPCHA mTTAcTTHAcDDAaOL CHIKI DIGIT ZEROdONEdTWOdTHREEdFOURdFIVEdSIXdSEVENdEIGHTdNINEcmLA",
    "dATdAGdANGdALdLAAdAAKdAAJdAAMdAAWdLIdISdIHdINYdIRdLUdUCdUDdUNNdUYdLEdEPdEDDdENdERRdLOdOTT",
    "dOBdOVdOHcMU TTUDDAGcGAAHLAA TTUDDAAGcMU-GAAHLAA TTUDDAAGcRELAAcPHAARKAAcAHAD",
    "cPUNCTUATION MUCAADdwMUCAADaCYRILLIC pmROUNDED VEdLONG-LEGGED DEdNARROW OdWIDE ESdTALL TE",
    "dTHREE-LEGGED TEdTALL HARD SIGNeYATdUNBLENDED UK"]⟩,
  ⟨0x1c90,
   ["aGEORGIAN MTAVRULI omANeBANeGANeDONeENeVINeZENeTANeINeKANeLASeMANeNAReONePAReZHAReRAEeSAN",
    "eTAReUNePHAReKHAReGHANeQAReSHINeCHINeCANeJILeCILeCHAReXANeJHANeHAEeHEeHIEeWEeHAReHOEeFIeYN",
    "eELIFIeTURNED GANeAIN"]⟩,
  ⟨0x1cbd,
   ["aGEORGIAN MTAVRULI omAENeHARD SIGNeLABIAL SIGNaSUNDANESE PUNCTUATION BINDU SURYAdPANGLONG",
    "dPURNAMAdCAKRAdLEU SATANGAdKA SATANGAdDA SATANGAdBA SATANGA"]⟩,
  ⟨0x1cd0,
   ["aVEDIC TONE KARSHANAcSHARAcPRENKHAbyNIHSHVASAcYAJURVEDIC MIDLINE SVARITA",
    "bTONE YAJURVEDIC AGGRAVATED INDEPENDENT SVARITAdINDEPENDENT SVARITA",
    "dKATHAKA INDEPENDENT SVARITAcCANDRA BELOWcYAJURVEDIC KATHAKA INDEPENDENT SVARITA SCHROEDER",
    "cwSVARITAcTRIPLE SVARITAcKATHAKA ANUDATTAcDOT BELOWcTWO DOTS BELOWcTHREE DOTS BELOW",
    "cRIGVEDIC KASHMIRI INDEPENDENT SVARITAcATHARVAVEDIC INDEPENDENT SVARITAbyVISARGA SVARITA",
    "dUDATTAcREVERSED VISARGA UDATTAcVISARGA ANUDATTAcREVERSED VISARGA ANUDATTA",
    "cVISARGA UDATTA nTAILdANUDATTA nTAILcANUSVARA ANTARGOMUKHAdBAHIRGOMUKHAdVAMAGOMUKHA",
    "dVAMAGOMUKHA nTAILcTIRYAKcHEXIFORM LONG ANUSVARAcLONG ANUSVARAcRTHANG LONG ANUSVARA",
    "cANUSVARA UBHAYATO MUKHAcARDHAVISARGAcROTATED ARDHAVISARGAbTONE CANDRA ABOVEbyJIHVAMULIYA",
    "cUPADHMANIYAcATIKRAMAbTONE RING ABOVEcwRING ABOVEbywANUSVARA ANTARGOMUKHA"]⟩,
  ⟨0x1d00,
   ["aLATIN mpoAeAEbpmTURNED AEbmpoBARRED BeCeDeETHeEbpmTURNED OPEN EeIbmpoJeKeL nSTROKEeM",
    "eREVERSED NeOeOPEN ObpmSIDEWAYS OeOPEN OeO nSTROKEdTURNED OEbmpoOUbpmTOP HALF O",
    "dBOTTOM HALF ObmpoPeREVERSED ReTURNED ReTeUbpmSIDEWAYS UeDIAERESIZED UeTURNED MbmpoVeWeZ",
    "eEZHcVOICED LARYNGEAL SPIRANTcAINaGREEK mpoGAMMAeLAMDAePIeRHOePSIaCYRILLIC mpoEL",
    "aMODIFIER moAdAEdBdBARRED BdDdEdREVERSED EdGdHdIdJdKdLdMdNdREVERSED NdOdOUdPdRdTdUdWcpA",
    "dTURNED AdALPHAdTURNED AEdBdDdEdSCHWAdOPEN EdTURNED OPEN EdGdTURNED IdKdMdENGdOdOPEN O",
    "dTOP HALF OdBOTTOM HALF OdPdTdUdSIDEWAYS UdTURNED MdVdAINdBETAdGREEK GAMMAdDELTAdGREEK PHI",
    "dCHIaLATIN SUBSCRIPT pmIeReUeVaGREEK SUBSCRIPT pmBETAeGAMMAeRHOePHIeCHIaLATIN pmUE",
    "dB nMIDDLE TILDEdD nMIDDLE TILDEdF nMIDDLE TILDEdM nMIDDLE TILDEdN nMIDDLE TILDE",
    "dP nMIDDLE TILDEdR nMIDDLE TILDEfFISHHOOK tMIDDLE TILDEdS nMIDDLE TILDEdT nMIDDLE TILDE",
    "dZ nMIDDLE TILDEdTURNED GaMODIFIER mCYRILLIC ENaLATIN pmINSULAR GdTH nSTRIKETHROUGH",
    "comI nSTROKEcmIOTA nSTROKEdP nSTROKEcomU nSTROKEcmUPSILON nSTROKEdB nPALATAL HOOK",
    "dD nPALATAL HOOKdF nPALATAL HOOKdG nPALATAL HOOKdK nPALATAL HOOKdL nPALATAL HOOK",
    "dM nPALATAL HOOKdN nPALATAL HOOKdP nPALATAL HOOKdR nPALATAL HOOKdS nPALATAL HOOK",
    "dESH nPALATAL HOOKdV nPALATAL HOOKdX nPALATAL HOOKdZ nPALATAL HOOKdA nRETROFLEX HOOK",
    "dALPHA nRETROFLEX HOOKdD nHOOK tTAILdE nRETROFLEX HOOKdOPEN E nRETROFLEX HOOK",
    "dREVERSED OPEN E nRETROFLEX HOOKdSCHWA nRETROFLEX HOOKdI nRETROFLEX HOOK",
    "dOPEN O nRETROFLEX HOOKdESH nRETROFLEX HOOKdU nRETROFLEX HOOKdEZH nRETROFLEX HOOK",
    "aMODIFIER mpTURNED ALPHAdCdC nCURLdETHdREVERSED OPEN EdFdDOTLESS J nSTROKEdSCRIPT G",
    "dTURNED HdI nSTROKEdIOTAdoIeI nSTROKEdJ nCROSSED-TAILdL nRETROFLEX HOOKfPALATAL HOOKdoL",
    "dM nHOOKdTURNED M nLONG LEGdN nxHOOKfRETROFLEX HOOKdoNdBARRED OdPHIdS nHOOKdESH",
    "dT nPALATAL HOOKdU BARdUPSILONdoUdV nHOOKdTURNED VdZdZ nRETROFLEX HOOKfCURLdEZHdTHETA",
    "aCOMBINING DOTTED GRAVE ACCENTcACUTE ACCENTbSNAKE BELOWbSUSPENSION MARKbMACRON-ACUTE",
    "bGRAVE-MACRONbMACRON-GRAVEbACUTE-MACRONbGRAVE-ACUTE-GRAVEbACUTE-GRAVE-ACUTEbLATIN pmR BELOW",
    "bBREVE-MACRONbMACRON-BREVEbwCIRCUMFLEX ABOVEbOGONEK ABOVEbZIGZAG BELOWbIS BELOWbUR ABOVE",
    "bUS ABOVEbLATIN pmFLATTENED OPEN A ABOVEeAEeAOeAVeC CEDILLAeINSULAR DeETHeGcmpoGcpmKeLcmpoL",
    "fMcpmNcmpoNfRcpmR ROTUNDAeSeLONG SeZeALPHAeBeBETAeSCHWAeFeL nwMIDDLE TILDE",
    "eO nLIGHT CENTRALIZATION STROKEePeESHeU nLIGHT CENTRALIZATION STROKEeWeA nDIAERESIS",
    "eO nDIAERESISeU nDIAERESISbUP TACK ABOVEbKAVYKA ABOVE RIGHTdLEFTbDOT ABOVE LEFT",
    "bWIDE INVERTED BRIDGE BELOWbDOT BELOW LEFTbDELETION MARKbwINVERTED BREVE BELOW",
    "bALMOST EQUAL TO BELOWbxARROWHEAD ABOVEbuARROWHEAD tDOWN ARROWHEAD BELOW",
    "aLATIN omA nRING BELOWbpmA nRING BELOWbomB nDOT ABOVEbpmB nDOT ABOVEbomB nDOT BELOW",
    "bpmB nDOT BELOWbomB nLINE BELOWbpmB nLINE BELOWbomC nCEDILLA tACUTEbpmC nCEDILLA tACUTE",
    "bomD nDOT ABOVEbpmD nDOT ABOVEbomD nDOT BELOWbpmD nDOT BELOWbomD nLINE BELOW",
    "bpmD nLINE BELOWbomD nCEDILLAbpmD nCEDILLAbomD nCIRCUMFLEX BELOWbpmD nCIRCUMFLEX BELOW",
    "bomE nMACRON tGRAVEbpmE nMACRON tGRAVEbomE nMACRON tACUTEbpmE nMACRON tACUTE",
    "bomE nCIRCUMFLEX BELOWbpmE nCIRCUMFLEX BELOWbomE nTILDE BELOWbpmE nTILDE BELOW",
    "bomE nCEDILLA tBREVEbpmE nCEDILLA tBREVEbomF nDOT ABOVEbpmF nDOT ABOVEbomG nMACRON",
    "bpmG nMACRONbomH nDOT ABOVEbpmH nDOT ABOVEbomH nDOT BELOWbpmH nDOT BELOWbomH nDIAERESIS",
    "bpmH nDIAERESISbomH nCEDILLAbpmH nCEDILLAbomH nBREVE BELOWbpmH nBREVE BELOW",
    "bomI nTILDE BELOWbpmI nTILDE BELOWbomI nDIAERESIS tACUTEbpmI nDIAERESIS tACUTEbomK nACUTE",
    "bpmK nACUTEbomK nDOT BELOWbpmK nDOT BELOWbomK nLINE BELOWbpmK nLINE BELOWbomL nDOT BELOW",
    "bpmL nDOT BELOWbomL nDOT BELOW tMACRONbpmL nDOT BELOW tMACRONbomL nLINE BELOW",
    "bpmL nLINE BELOWbomL nCIRCUMFLEX BELOWbpmL nCIRCUMFLEX BELOWbomM nACUTEbpmM nACUTE",
    "bomM nDOT ABOVEbpmM nDOT ABOVEbomM nDOT BELOWbpmM nDOT BELOWbomN nDOT ABOVEbpmN nDOT ABOVE",
    "bomN nDOT BELOWbpmN nDOT BELOWbomN nLINE BELOWbpmN nLINE BELOWbomN nCIRCUMFLEX BELOW",
    "bpmN nCIRCUMFLEX BELOWbomO nTILDE tACUTEbpmO nTILDE tACUTEbomO nTILDE tDIAERESIS",
    "bpmO nTILDE tDIAERESISbomO nMACRON tGRAVEbpmO nMACRON tGRAVEbomO nMACRON tACUTE",
    "bpmO nMACRON tACUTEbomP nACUTEbpmP nACUTEbomP nDOT ABOVEbpmP nDOT ABOVEbomR nDOT ABOVE",
    "bpmR nDOT ABOVEbomR nDOT BELOWbpmR nDOT BELOWbomR nDOT BELOW tMACRONbpmR nDOT BELOW tMACRON",
    "bomR nLINE BELOWbpmR nLINE BELOWbomS nDOT ABOVEbpmS nDOT ABOVEbomS nDOT BELOW",
    "bpmS nDOT BELOWbomS nACUTE tDOT ABOVEbpmS nACUTE tDOT ABOVEbomS nCARON tDOT ABOVE",
    "bpmS nCARON tDOT ABOVEbomS nDOT BELOW tDOT ABOVEbpmS nDOT BELOW tDOT ABOVEbomT nDOT ABOVE",
    "bpmT nDOT ABOVEbomT nDOT BELOWbpmT nDOT BELOWbomT nLINE BELOWbpmT nLINE BELOW",
    "bomT nCIRCUMFLEX BELOWbpmT nCIRCUMFLEX BELOWbomU nDIAERESIS BELOWbpmU nDIAERESIS BELOW",
    "bomU nTILDE BELOWbpmU nTILDE BELOWbomU nCIRCUMFLEX BELOWbpmU nCIRCUMFLEX BELOW",
    "bomU nTILDE tACUTEbpmU nTILDE tACUTEbomU nMACRON tDIAERESISbpmU nMACRON tDIAERESIS",
    "bomV nTILDEbpmV nTILDEbomV nDOT BELOWbpmV nDOT BELOWbomW nGRAVEbpmW nGRAVEbomW nACUTE",
    "bpmW nACUTEbomW nDIAERESISbpmW nDIAERESISbomW nDOT ABOVEbpmW nDOT ABOVEbomW nDOT BELOW",
    "bpmW nDOT BELOWbomX nDOT ABOVEbpmX nDOT ABOVEbomX nDIAERESISbpmX nDIAERESISbomY nDOT ABOVE",
    "bpmY nDOT ABOVEbomZ nCIRCUMFLEXbpmZ nCIRCUMFLEXbomZ nDOT BELOWbpmZ nDOT BELOW",
    "bomZ nLINE BELOWbpmZ nLINE BELOWdH nLINE BELOWdT nDIAERESISdW nRING ABOVEdY nRING ABOVE",
    "dA nuHALF RINGdLONG S nDOT ABOVEgDIAGONAL STROKEgHIGH STROKEbomSHARP SbpmDELTA",
    "bomA nDOT BELOWbpmA nDOT BELOWbomA nHOOK ABOVEbpmA nHOOK ABOVEbomA nCIRCUMFLEX tACUTE",
    "bpmA nCIRCUMFLEX tACUTEbomA nCIRCUMFLEX tGRAVEbpmA nCIRCUMFLEX tGRAVE",
    "bomA nCIRCUMFLEX tHOOK ABOVEbpmA nCIRCUMFLEX tHOOK ABOVEbomA nCIRCUMFLEX tTILDE",
    "bpmA nCIRCUMFLEX tTILDEbomA nCIRCUMFLEX tDOT BELOWbpmA nCIRCUMFLEX tDOT BELOW",
    "bomA nBREVE tACUTEbpmA nBREVE tACUTEbomA nBREVE tGRAVEbpmA nBREVE tGRAVE",
    "bomA nBREVE tHOOK ABOVEbpmA nBREVE tHOOK ABOVEbomA nBREVE tTILDEbpmA nBREVE tTILDE",
    "bomA nBREVE tDOT BELOWbpmA nBREVE tDOT BELOWbomE nDOT BELOWbpmE nDOT BELOWbomE nHOOK ABOVE",
    "bpmE nHOOK ABOVEbomE nTILDEbpmE nTILDEbomE nCIRCUMFLEX tACUTEbpmE nCIRCUMFLEX tACUTE",
    "bomE nCIRCUMFLEX tGRAVEbpmE nCIRCUMFLEX tGRAVEbomE nCIRCUMFLEX tHOOK ABOVE",
    "bpmE nCIRCUMFLEX tHOOK ABOVEbomE nCIRCUMFLEX tTILDEbpmE nCIRCUMFLEX tTILDE",
    "bomE nCIRCUMFLEX tDOT BELOWbpmE nCIRCUMFLEX tDOT BELOWbomI nHOOK ABOVEbpmI nHOOK ABOVE",
    "bomI nDOT BELOWbpmI nDOT BELOWbomO nDOT BELOWbpmO nDOT BELOWbomO nHOOK ABOVE",
    "bpmO nHOOK ABOVEbomO nCIRCUMFLEX tACUTEbpmO nCIRCUMFLEX tACUTEbomO nCIRCUMFLEX tGRAVE",
    "bpmO nCIRCUMFLEX tGRAVEbomO nCIRCUMFLEX tHOOK ABOVEbpmO nCIRCUMFLEX tHOOK ABOVE",
    "bomO nCIRCUMFLEX tTILDEbpmO nCIRCUMFLEX tTILDEbomO nCIRCUMFLEX tDOT BELOW",
    "bpmO nCIRCUMFLEX tDOT BELOWbomO nHORN tACUTEbpmO nHORN tACUTEbomO nHORN tGRAVE",
    "bpmO nHORN tGRAVEbomO nHORN tHOOK ABOVEbpmO nHORN tHOOK ABOVEbomO nHORN tTILDE",
    "bpmO nHORN tTILDEbomO nHORN tDOT BELOWbpmO nHORN tDOT BELOWbomU nDOT BELOWbpmU nDOT BELOW",
    "bomU nHOOK ABOVEbpmU nHOOK ABOVEbomU nHORN tACUTEbpmU nHORN tACUTEbomU nHORN tGRAVE",
    "bpmU nHORN tGRAVEbomU nHORN tHOOK ABOVEbpmU nHORN tHOOK ABOVEbomU nHORN tTILDE",
    "bpmU nHORN tTILDEbomU nHORN tDOT BELOWbpmU nHORN tDOT BELOWbomY nGRAVEbpmY nGRAVE",
    "bomY nDOT BELOWbpmY nDOT BELOWbomY nHOOK ABOVEbpmY nHOOK ABOVEbomY nTILDEbpmY nTILDE",
    "bomMIDDLE-WELSH LLbpmMIDDLE-WELSH LLbomMIDDLE-WELSH VbpmMIDDLE-WELSH VbomY nLOOPbpmY nLOOP",
    "aGREEK pmALPHA nPSILIfDASIAfPSILI tVARIAfDASIA tVARIAfPSILI tOXIAfDASIA tOXIA",
    "fPSILI tPERISPOMENIfDASIA tPERISPOMENIbomALPHA nPSILIfDASIAfPSILI tVARIAfDASIA tVARIA",
    "fPSILI tOXIAfDASIA tOXIAfPSILI tPERISPOMENIfDASIA tPERISPOMENIbpmEPSILON nPSILIfDASIA",
    "fPSILI tVARIAfDASIA tVARIAfPSILI tOXIAfDASIA tOXIA"]⟩,
  ⟨0x1f18, ["aGREEK omEPSILON nPSILIfDASIAfPSILI tVARIAfDASIA tVARIAfPSILI tOXIAfDASIA tOXIA"]⟩,
  ⟨0x1f20,
   ["aGREEK pmETA nPSILIfDASIAfPSILI tVARIAfDASIA tVARIAfPSILI tOXIAfDASIA tOXIA",
    "fPSILI tPERISPOMENIfDASIA tPERISPOMENIbomETA nPSILIfDASIAfPSILI tVARIAfDASIA tVARIA",
    "fPSILI tOXIAfDASIA tOXIAfPSILI tPERISPOMENIfDASIA tPERISPOMENIbpmIOTA nPSILIfDASIA",
    "fPSILI tVARIAfDASIA tVARIAfPSILI tOXIAfDASIA tOXIAfPSILI tPERISPOMENIfDASIA tPERISPOMENI",
    "bomIOTA nPSILIfDASIAfPSILI tVARIAfDASIA tVARIAfPSILI tOXIAfDASIA tOXIAfPSILI tPERISPOMENI",
    "fDASIA tPERISPOMENIbpmOMICRON nPSILIfDASIAfPSILI tVARIAfDASIA tVARIAfPSILI tOXIA",
    "fDASIA tOXIA"]⟩,
  ⟨0x1f48, ["aGREEK omOMICRON nPSILIfDASIAfPSILI tVARIAfDASIA tVARIAfPSILI tOXIAfDASIA tOXIA"]⟩,
  ⟨0x1f50,
   ["aGREEK pmUPSILON nPSILIfDASIAfPSILI tVARIAfDASIA tVARIAfPSILI tOXIAfDASIA tOXIA",
    "fPSILI tPERISPOMENIfDASIA tPERISPOMENI"]⟩,
  ⟨0x1f59, ["aGREEK omUPSILON nDASIA"]⟩, ⟨0x1f5b, ["aGREEK omUPSILON nDASIA tVARIA"]⟩,
  ⟨0x1f5d, ["aGREEK omUPSILON nDASIA tOXIA"]⟩,
  ⟨0x1f5f,
   ["aGREEK omUPSILON nDASIA tPERISPOMENIbpmOMEGA nPSILIfDASIAfPSILI tVARIAfDASIA tVARIA",
    "fPSILI tOXIAfDASIA tOXIAfPSILI tPERISPOMENIfDASIA tPERISPOMENIbomOMEGA nPSILIfDASIA",
    "fPSILI tVARIAfDASIA tVARIAfPSILI tOXIAfDASIA tOXIAfPSILI tPERISPOMENIfDASIA tPERISPOMENI",
    "bpmALPHA nVARIAfOXIAdEPSILON nVARIAfOXIAdETA nVARIAfOXIAdIOTA nVARIAfOXIAdOMICRON nVARIA",
    "fOXIAdUPSILON nVARIAfOXIAdOMEGA nVARIAfOXIA"]⟩,
  ⟨0x1f80,
   ["aGREEK pmALPHA nPSILI tYPOGEGRAMMENIfDASIA tYPOGEGRAMMENIfPSILI tVARIA tYPOGEGRAMMENI",
    "fDASIA tVARIA tYPOGEGRAMMENIfPSILI tOXIA tYPOGEGRAMMENIfDASIA tOXIA tYPOGEGRAMMENI",
    "fPSILI tPERISPOMENI tYPOGEGRAMMENIfDASIA tPERISPOMENI tYPOGEGRAMMENI",
    "bomALPHA nPSILI tPROSGEGRAMMENIfDASIA tPROSGEGRAMMENIfPSILI tVARIA tPROSGEGRAMMENI",
    "fDASIA tVARIA tPROSGEGRAMMENIfPSILI tOXIA tPROSGEGRAMMENIfDASIA tOXIA tPROSGEGRAMMENI",
    "fPSILI tPERISPOMENI tPROSGEGRAMMENIfDASIA tPERISPOMENI tPROSGEGRAMMENI",
    "bpmETA nPSILI tYPOGEGRAMMENIfDASIA tYPOGEGRAMMENIfPSILI tVARIA tYPOGEGRAMMENI",
    "fDASIA tVARIA tYPOGEGRAMMENIfPSILI tOXIA tYPOGEGRAMMENIfDASIA tOXIA tYPOGEGRAMMENI",
    "fPSILI tPERISPOMENI tYPOGEGRAMMENIfDASIA tPERISPOMENI tYPOGEGRAMMENI",
    "bomETA nPSILI tPROSGEGRAMMENIfDASIA tPROSGEGRAMMENIfPSILI tVARIA tPROSGEGRAMMENI",
    "fDASIA tVARIA tPROSGEGRAMMENIfPSILI tOXIA tPROSGEGRAMMENIfDASIA tOXIA tPROSGEGRAMMENI",
    "fPSILI tPERISPOMENI tPROSGEGRAMMENIfDASIA tPERISPOMENI tPROSGEGRAMMENI",
    "bpmOMEGA nPSILI tYPOGEGRAMMENIfDASIA tYPOGEGRAMMENIfPSILI tVARIA tYPOGEGRAMMENI",
    "fDASIA tVARIA tYPOGEGRAMMENIfPSILI tOXIA tYPOGEGRAMMENIfDASIA tOXIA tYPOGEGRAMMENI",
    "fPSILI tPERISPOMENI tYPOGEGRAMMENIfDASIA tPERISPOMENI tYPOGEGRAMMENI",
    "bomOMEGA nPSILI tPROSGEGRAMMENIfDASIA tPROSGEGRAMMENIfPSILI tVARIA tPROSGEGRAMMENI",
    "fDASIA tVARIA tPROSGEGRAMMENIfPSILI tOXIA tPROSGEGRAMMENIfDASIA tOXIA tPROSGEGRAMMENI",
    "fPSILI tPERISPOMENI tPROSGEGRAMMENIfDASIA tPERISPOMENI tPROSGEGRAMMENIbpmALPHA nVRACHY",
    "fMACRONfVARIA tYPOGEGRAMMENIfYPOGEGRAMMENIfOXIA tYPOGEGRAMMENI"]⟩,
  ⟨0x1fb6,
   ["aGREEK pmALPHA nPERISPOMENIfPERISPOMENI tYPOGEGRAMMENIbomALPHA nVRACHYfMACRONfVARIAfOXIA",
    "fPROSGEGRAMMENIbKORONISbPROSGEGRAMMENIbPSILIbPERISPOMENIbDIALYTIKA tPERISPOMENI",
    "bpmETA nVARIA tYPOGEGRAMMENIfYPOGEGRAMMENIfOXIA tYPOGEGRAMMENI"]⟩,
  ⟨0x1fc6,
   ["aGREEK pmETA nPERISPOMENIfPERISPOMENI tYPOGEGRAMMENIbomEPSILON nVARIAfOXIAdETA nVARIAfOXIA",
    "fPROSGEGRAMMENIbPSILI tVARIAdOXIAdPERISPOMENIbpmIOTA nVRACHYfMACRONfDIALYTIKA tVARIAhOXIA"]⟩,
  ⟨0x1fd6, ["aGREEK pmIOTA nPERISPOMENIfDIALYTIKA tPERISPOMENIbomIOTA nVRACHYfMACRONfVARIAfOXIA"]⟩,
  ⟨0x1fdd,
   ["aGREEK DASIA tVARIAdOXIAdPERISPOMENIbpmUPSILON nVRACHYfMACRONfDIALYTIKA tVARIAhOXIA",
    "dRHO nPSILIfDASIAdUPSILON nPERISPOMENIfDIALYTIKA tPERISPOMENIbomUPSILON nVRACHYfMACRON",
    "fVARIAfOXIAdRHO nDASIAbDIALYTIKA tVARIAdOXIAbVARIA"]⟩,
  ⟨0x1ff2, ["aGREEK pmOMEGA nVARIA tYPOGEGRAMMENIfYPOGEGRAMMENIfOXIA tYPOGEGRAMMENI"]⟩,
  ⟨0x1ff6,
   ["aGREEK pmOMEGA nPERISPOMENIfPERISPOMENI tYPOGEGRAMMENIbomOMICRON nVARIAfOXIAdOMEGA nVARIA",
    "fOXIAfPROSGEGRAMMENIbOXIAbDASIA"]⟩]

end PhoneticCatalog.Text
