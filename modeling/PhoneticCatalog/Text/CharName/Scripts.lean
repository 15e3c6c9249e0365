import PhoneticCatalog.Text.CharName.Table

/-!
# Names of characters: other scripts

The names from U+A000 up to U+1CFFF, written as `NameRun` says.
-/

namespace PhoneticCatalog.Text

/-- The names of the characters of other scripts. -/
def scriptNames : List NameRun := [
  ⟨0xa000,
   ["aYI SYLLABLE ITcIXcIcIPcIETcIEXcIEcIEPcATcAXcAcAPcUOXcUOcUOPcOTcOXcOcOPcEXcEcWUcBITcBIXcBI",
    "cBIPcBIETcBIEXcBIEcBIEPcBATcBAXcBAcBAPcBUOXcBUOcBUOPcBOTcBOXcBOcBOPcBEXcBEcBEPcBUTcBUXcBU",
    "cBUPcBURXcBURcBYTcBYXcBYcBYPcBYRXcBYRcPITcPIXcPIcPIPcPIEXcPIEcPIEPcPATcPAXcPAcPAPcPUOXcPUO",
    "cPUOPcPOTcPOXcPOcPOPcPUTcPUXcPUcPUPcPURXcPURcPYTcPYXcPYcPYPcPYRXcPYRcBBITcBBIXcBBIcBBIP",
    "cBBIETcBBIEXcBBIEcBBIEPcBBATcBBAXcBBAcBBAPcBBUOXcBBUOcBBUOPcBBOTcBBOXcBBOcBBOPcBBEXcBBE",
    "cBBEPcBBUTcBBUXcBBUcBBUPcBBURXcBBURcBBYTcBBYXcBBYcBBYPcNBITcNBIXcNBIcNBIPcNBIEXcNBIEcNBIEP",
    "cNBATcNBAXcNBAcNBAPcNBOTcNBOXcNBOcNBOPcNBUTcNBUXcNBUcNBUPcNBURXcNBURcNBYTcNBYXcNBYcNBYP",
    "cNBYRXcNBYRcHMITcHMIXcHMIcHMIPcHMIEXcHMIEcHMIEPcHMATcHMAXcHMAcHMAPcHMUOXcHMUOcHMUOPcHMOT",
    "cHMOXcHMOcHMOPcHMUTcHMUXcHMUcHMUPcHMURXcHMURcHMYXcHMYcHMYPcHMYRXcHMYRcMITcMIXcMIcMIPcMIEX",
    "cMIEcMIEPcMATcMAXcMAcMAPcMUOTcMUOXcMUOcMUOPcMOTcMOXcMOcMOPcMEXcMEcMUTcMUXcMUcMUPcMURXcMUR",
    "cMYTcMYXcMYcMYPcFITcFIXcFIcFIPcFATcFAXcFAcFAPcFOXcFOcFOPcFUTcFUXcFUcFUPcFURXcFURcFYTcFYXcFY",
    "cFYPcVITcVIXcVIcVIPcVIETcVIEXcVIEcVIEPcVATcVAXcVAcVAPcVOTcVOXcVOcVOPcVEXcVEPcVUTcVUXcVUcVUP",
    "cVURXcVURcVYTcVYXcVYcVYPcVYRXcVYRcDITcDIXcDIcDIPcDIEXcDIEcDIEPcDATcDAXcDAcDAPcDUOXcDUOcDOT",
    "cDOXcDOcDOPcDEXcDEcDEPcDUTcDUXcDUcDUPcDURXcDURcTITcTIXcTIcTIPcTIEXcTIEcTIEPcTATcTAXcTAcTAP",
    "cTUOTcTUOXcTUOcTUOPcTOTcTOXcTOcTOPcTEXcTEcTEPcTUTcTUXcTUcTUPcTURXcTURcDDITcDDIXcDDIcDDIP",
    "cDDIEXcDDIEcDDIEPcDDATcDDAXcDDAcDDAPcDDUOXcDDUOcDDUOPcDDOTcDDOXcDDOcDDOPcDDEXcDDEcDDEPcDDUT",
    "cDDUXcDDUcDDUPcDDURXcDDURcNDITcNDIXcNDIcNDIPcNDIEXcNDIEcNDATcNDAXcNDAcNDAPcNDOTcNDOXcNDO",
    "cNDOPcNDEXcNDEcNDEPcNDUTcNDUXcNDUcNDUPcNDURXcNDURcHNITcHNIXcHNIcHNIPcHNIETcHNIEXcHNIEcHNIEP",
    "cHNATcHNAXcHNAcHNAPcHNUOXcHNUOcHNOTcHNOXcHNOPcHNEXcHNEcHNEPcHNUTcNITcNIXcNIcNIPcNIEXcNIE",
    "cNIEPcNAXcNAcNAPcNUOXcNUOcNUOPcNOTcNOXcNOcNOPcNEXcNEcNEPcNUTcNUXcNUcNUPcNURXcNURcHLITcHLIX",
    "cHLIcHLIPcHLIEXcHLIEcHLIEPcHLATcHLAXcHLAcHLAPcHLUOXcHLUOcHLUOPcHLOXcHLOcHLOPcHLEXcHLEcHLEP",
    "cHLUTcHLUXcHLUcHLUPcHLURXcHLURcHLYTcHLYXcHLYcHLYPcHLYRXcHLYRcLITcLIXcLIcLIPcLIETcLIEXcLIE",
    "cLIEPcLATcLAXcLAcLAPcLUOTcLUOXcLUOcLUOPcLOTcLOXcLOcLOPcLEXcLEcLEPcLUTcLUXcLUcLUPcLURXcLUR",
    "cLYTcLYXcLYcLYPcLYRXcLYRcGITcGIXcGIcGIPcGIETcGIEXcGIEcGIEPcGATcGAXcGAcGAPcGUOTcGUOXcGUO",
    "cGUOPcGOTcGOXcGOcGOPcGETcGEXcGEcGEPcGUTcGUXcGUcGUPcGURXcGURcKITcKIXcKIcKIPcKIEXcKIEcKIEP",
    "cKATcKAXcKAcKAPcKUOXcKUOcKUOPcKOTcKOXcKOcKOPcKETcKEXcKEcKEPcKUTcKUXcKUcKUPcKURXcKURcGGIT",
    "cGGIXcGGIcGGIEXcGGIEcGGIEPcGGATcGGAXcGGAcGGAPcGGUOTcGGUOXcGGUOcGGUOPcGGOTcGGOXcGGOcGGOP",
    "cGGETcGGEXcGGEcGGEPcGGUTcGGUXcGGUcGGUPcGGURXcGGURcMGIEXcMGIEcMGATcMGAXcMGAcMGAPcMGUOXcMGUO",
    "cMGUOPcMGOTcMGOXcMGOcMGOPcMGEXcMGEcMGEPcMGUTcMGUXcMGUcMGUPcMGURXcMGURcHXITcHXIXcHXIcHXIP",
    "cHXIETcHXIEXcHXIEcHXIEPcHXATcHXAXcHXAcHXAPcHXUOTcHXUOXcHXUOcHXUOPcHXOTcHXOXcHXOcHXOPcHXEX",
    "cHXEcHXEPcNGIEXcNGIEcNGIEPcNGATcNGAXcNGAcNGAPcNGUOTcNGUOXcNGUOcNGOTcNGOXcNGOcNGOPcNGEXcNGE",
    "cNGEPcHITcHIEXcHIEcHATcHAXcHAcHAPcHUOTcHUOXcHUOcHUOPcHOTcHOXcHOcHOPcHEXcHEcHEPcWATcWAXcWA",
    "cWAPcWUOXcWUOcWUOPcWOXcWOcWOPcWEXcWEcWEPcZITcZIXcZIcZIPcZIEXcZIEcZIEPcZATcZAXcZAcZAPcZUOX",
    "cZUOcZUOPcZOTcZOXcZOcZOPcZEXcZEcZEPcZUTcZUXcZUcZUPcZURXcZURcZYTcZYXcZYcZYPcZYRXcZYRcCITcCIX",
    "cCIcCIPcCIETcCIEXcCIEcCIEPcCATcCAXcCAcCAPcCUOXcCUOcCUOPcCOTcCOXcCOcCOPcCEXcCEcCEPcCUTcCUX",
    "cCUcCUPcCURXcCURcCYTcCYXcCYcCYPcCYRXcCYRcZZITcZZIXcZZIcZZIPcZZIETcZZIEXcZZIEcZZIEPcZZAT",
    "cZZAXcZZAcZZAPcZZOXcZZOcZZOPcZZEXcZZEcZZEPcZZUXcZZUcZZUPcZZURXcZZURcZZYTcZZYXcZZYcZZYP",
    "cZZYRXcZZYRcNZITcNZIXcNZIcNZIPcNZIEXcNZIEcNZIEPcNZATcNZAXcNZAcNZAPcNZUOXcNZUOcNZOXcNZOP",
    "cNZEXcNZEcNZUXcNZUcNZUPcNZURXcNZURcNZYTcNZYXcNZYcNZYPcNZYRXcNZYRcSITcSIXcSIcSIPcSIEXcSIE",
    "cSIEPcSATcSAXcSAcSAPcSUOXcSUOcSUOPcSOTcSOXcSOcSOPcSEXcSEcSEPcSUTcSUXcSUcSUPcSURXcSURcSYT",
    "cSYXcSYcSYPcSYRXcSYRcSSITcSSIXcSSIcSSIPcSSIEXcSSIEcSSIEPcSSATcSSAXcSSAcSSAPcSSOTcSSOXcSSO",
    "cSSOPcSSEXcSSEcSSEPcSSUTcSSUXcSSUcSSUPcSSYTcSSYXcSSYcSSYPcSSYRXcSSYRcZHATcZHAXcZHAcZHAP",
    "cZHUOXcZHUOcZHUOPcZHOTcZHOXcZHOcZHOPcZHETcZHEXcZHEcZHEPcZHUTcZHUXcZHUcZHUPcZHURXcZHURcZHYT",
    "cZHYXcZHYcZHYPcZHYRXcZHYRcCHATcCHAXcCHAcCHAPcCHUOTcCHUOXcCHUOcCHUOPcCHOTcCHOXcCHOcCHOPcCHET",
    "cCHEXcCHEcCHEPcCHUXcCHUcCHUPcCHURXcCHURcCHYTcCHYXcCHYcCHYPcCHYRXcCHYRcRRAXcRRAcRRUOXcRRUO",
    "cRROTcRROXcRROcRROPcRRETcRREXcRREcRREPcRRUTcRRUXcRRUcRRUPcRRURXcRRURcRRYTcRRYXcRRYcRRYP",
    "cRRYRXcRRYRcNRATcNRAXcNRAcNRAPcNROXcNROcNROPcNRETcNREXcNREcNREPcNRUTcNRUXcNRUcNRUPcNRURX",
    "cNRURcNRYTcNRYXcNRYcNRYPcNRYRXcNRYRcSHATcSHAXcSHAcSHAPcSHUOXcSHUOcSHUOPcSHOTcSHOXcSHOcSHOP",
    "cSHETcSHEXcSHEcSHEPcSHUTcSHUXcSHUcSHUPcSHURXcSHURcSHYTcSHYXcSHYcSHYPcSHYRXcSHYRcRATcRAXcRA",
    "cRAPcRUOXcRUOcRUOPcROTcROXcROcROPcREXcREcREPcRUTcRUXcRUcRUPcRURXcRURcRYTcRYXcRYcRYPcRYRX",
    "cRYRcJITcJIXcJIcJIPcJIETcJIEXcJIEcJIEPcJUOTcJUOXcJUOcJUOPcJOTcJOXcJOcJOPcJUTcJUXcJUcJUP",
    "cJURXcJURcJYTcJYXcJYcJYPcJYRXcJYRcQITcQIXcQIcQIPcQIETcQIEXcQIEcQIEPcQUOTcQUOXcQUOcQUOPcQOT",
    "cQOXcQOcQOPcQUTcQUXcQUcQUPcQURXcQURcQYTcQYXcQYcQYPcQYRXcQYRcJJITcJJIXcJJIcJJIPcJJIETcJJIEX",
    "cJJIEcJJIEPcJJUOXcJJUOcJJUOPcJJOTcJJOXcJJOcJJOPcJJUTcJJUXcJJUcJJUPcJJURXcJJURcJJYTcJJYXcJJY",
    "cJJYPcNJITcNJIXcNJIcNJIPcNJIETcNJIEXcNJIEcNJIEPcNJUOXcNJUOcNJOTcNJOXcNJOcNJOPcNJUXcNJUcNJUP",
    "cNJURXcNJURcNJYTcNJYXcNJYcNJYPcNJYRXcNJYRcNYITcNYIXcNYIcNYIPcNYIETcNYIEXcNYIEcNYIEPcNYUOX",
    "cNYUOcNYUOPcNYOTcNYOXcNYOcNYOPcNYUTcNYUXcNYUcNYUPcXITcXIXcXIcXIPcXIETcXIEXcXIEcXIEPcXUOX",
    "cXUOcXOTcXOXcXOcXOPcXYTcXYXcXYcXYPcXYRXcXYRcYITcYIXcYIcYIPcYIETcYIEXcYIEcYIEPcYUOTcYUOXcYUO",
    "cYUOPcYOTcYOXcYOcYOPcYUTcYUXcYUcYUPcYURXcYURcYYTcYYXcYYcYYPcYYRXcYYR"]⟩,
  ⟨0xa490,
   ["aYI RADICAL QOTcLIcKITcNYIPcCYPcSSIcGGOPcGEPcMIcHXITcLYRcBBUTcMOPcYOcPUTcHXUOcTATcGAcZUP",
    "cCYTcDDURcBURcGGUOcNYOPcTUcOPcJJUTcZOTcPYTcHMOcYITcVURcSHYcVEPcZAcJOcNZUPcJJYcGOTcJJIEcWO",
    "cDUcSHURcLIEcCYcCUOPcCIPcHXOPcSHATcZURcSHOPcCHEcZZIETcNBIEcKE"]⟩,
  ⟨0xa4d0,
   ["aLISU mBAcPAcPHAcDAcTAcTHAcGAcKAcKHAcJAcCAcCHAcDZAcTSAcTSHAcMAcNAcLAcSAcZHAcZAcNGAcHAcXA",
    "cHHAcFAcWAcSHAcYAcGHAcAcAEcEcEUcIcOcUcUEcUHcOEcTONE MYA TIdNA POdMYA CYAeBOeNAeJEU",
    "bPUNCTUATION COMMAcFULL STOPaVAI SYLLABLE EEcEENcHEEcWEEcWEENcPEEcBHEEcBEEcMBEEcKPEEcMGBEE",
    "cGBEEcFEEcVEEcTEEcTHEEcDHEEcDHHEEcLEEcREEcDEEcNDEEcSEEcSHEEcZEEcZHEEcCEEcJEEcNJEEcYEEcKEE",
    "cNGGEEcGEEcMEEcNEEcNYEEcIcINcHIcHINcWIcWINcPIcBHIcBIcMBIcKPIcMGBIcGBIcFIcVIcTIcTHIcDHIcDHHI",
    "cLIcRIcDIcNDIcSIcSHIcZIcZHIcCIcJIcNJIcYIcKIcNGGIcGIcMIcNIcNYIcAcANcNGANcHAcHANcWAcWANcPA",
    "cBHAcBAcMBAcKPAcKPANcMGBAcGBAcFAcVAcTAcTHAcDHAcDHHAcLAcRAcDAcNDAcSAcSHAcZAcZHAcCAcJAcNJAcYA",
    "cKAcKANcNGGAcGAcMAcNAcNYAcOOcOONcHOOcWOOcWOONcPOOcBHOOcBOOcMBOOcKPOOcMGBOOcGBOOcFOOcVOOcTOO",
    "cTHOOcDHOOcDHHOOcLOOcROOcDOOcNDOOcSOOcSHOOcZOOcZHOOcCOOcJOOcNJOOcYOOcKOOcNGGOOcGOOcMOOcNOO",
    "cNYOOcUcUNcHUcHUNcWUcWUNcPUcBHUcBUcMBUcKPUcMGBUcGBUcFUcVUcTUcTHUcDHUcDHHUcLUcRUcDUcNDUcSU",
    "cSHUcZUcZHUcCUcJUcNJUcYUcKUcNGGUcGUcMUcNUcNYUcOcONcNGONcHOcHONcWOcWONcPOcBHOcBOcMBOcKPO",
    "cMGBOcGBOcGBONcFOcVOcTOcTHOcDHOcDHHOcLOcROcDOcNDOcSOcSHOcZOcZHOcCOcJOcNJOcYOcKOcNGGOcGOcMO",
    "cNOcNYOcEcENcNGENcHEcHENcWEcWENcPEcBHEcBEcMBEcKPEcKPENcMGBEcGBEcGBENcFEcVEcTEcTHEcDHEcDHHE",
    "cLEcREcDEcNDEcSEcSHEcZEcZHEcCEcJEcNJEcYEcKEcNGGEcNGGENcGEcGENcMEcNEcNYEcNGcLENGTHENERbCOMMA",
    "bFULL STOPbQUESTION MARKbSYLLABLE NDOLE FAdKAdSOObSYMBOL FEENGcKEENGcTINGcNIIcBANGcFAAcTAA",
    "cDANGcDOONGcKUNGcTONGcDO-OcJONGbDIGIT ZEROcONEcTWOcTHREEcFOURcFIVEcSIXcSEVENcEIGHTcNINE",
    "bSYLLABLE NDOLE MAdDO"]⟩,
  ⟨0xa640,
   ["aCYRILLIC omZEMLYAbpmZEMLYAbomDZELObpmDZELObomREVERSED DZEbpmREVERSED DZEbomIOTAbpmIOTA",
    "bomDJERVbpmDJERVbomMONOGRAPH UKbpmMONOGRAPH UKbomBROAD OMEGAbpmBROAD OMEGAbomNEUTRAL YER",
    "bpmNEUTRAL YERbomYERU nBACK YERbpmYERU nBACK YERbomIOTIFIED YATbpmIOTIFIED YAT",
    "bomREVERSED YUbpmREVERSED YUbomIOTIFIED AbpmIOTIFIED AbomCLOSED LITTLE YUS",
    "bpmCLOSED LITTLE YUSbomBLENDED YUSbpmBLENDED YUSbomIOTIFIED CLOSED LITTLE YUS",
    "bpmIOTIFIED CLOSED LITTLE YUSbomYNbpmYNbomREVERSED TSEbpmREVERSED TSEbomSOFT DEbpmSOFT DE",
    "bomSOFT ELbpmSOFT ELbomSOFT EMbpmSOFT EMbomMONOCULAR ObpmMONOCULAR ObomBINOCULAR O",
    "bpmBINOCULAR ObomwMONOCULAR ObpmwMONOCULAR ObmMULTIOCULAR OaCOMBINING CYRILLIC VZMET",
    "cTEN MILLIONS SIGNcHUNDRED MILLIONS SIGNcTHOUSAND MILLIONS SIGNaSLAVONIC ASTERISK",
    "aCOMBINING CYRILLIC mUKRAINIAN IEdIdYIdUdHARD SIGNdYERUdSOFT SIGNdOMEGAcKAVYKAcPAYEROK",
    "aCYRILLIC KAVYKAbPAYEROKbomDWEbpmDWEbomDZWEbpmDZWEbomZHWEbpmZHWEbomCCHEbpmCCHEbomDZZE",
    "bpmDZZEbomTE nMIDDLE HOOKbpmTE nMIDDLE HOOKbomTWEbpmTWEbomTSWEbpmTSWEbomTSSEbpmTSSEbomTCHE",
    "bpmTCHEbomHWEbpmHWEbomSHWEbpmSHWEbomwObpmwObomCROSSED ObpmCROSSED O",
    "aMODIFIER mCYRILLIC HARD SIGNdSOFT SIGNaCOMBINING CYRILLIC mEFdIOTIFIED EaBAMUM mAcKAcUcKU",
    "cEEcREEcTAEcOcNYIcIcLAcPAcRIIcRIEEcLEEEEcMEEEEcTAAcNDAAcNJAEMcMcSUUcMUcSHIIcSIcSHEUXcSEUX",
    "cKYEEcKETcNUAEcNUcNJUAEcYOQcSHUcYUQcYAcNSHAcKEUXcPEUXcNJEEcNTEEcPUEcWUEcPEEcFEEcRUcLUcMIcNI",
    "cREUXcRAEcKENcNGKWAENcNGGAcNGAcSHOcPUAEcFUcFOMcWAcNAcLIcPIcLOQcKOcMBENcRENcMENcMAcTIcKIcMO",
    "cMBAAcTETcKPAcTENcNTUUcSAMBAcFAAMAEcKOVUUcKOGHOMbCOMBINING MARK KOQNDONdTUKWENTISbNJAEMLI",
    "bFULL STOPbCOLONbCOMMAbSEMICOLONbQUESTION MARK"]⟩,
  ⟨0xa700,
   ["aMODIFIER mCHINESE TONE YIN PINGeYANG PINGeYIN SHANGeYANG SHANGeYIN QUeYANG QUeYIN RU",
    "eYANG RUcEXTRA-HIGH DOTTED TONE BARcHIGH DOTTED TONE BARcMID DOTTED TONE BAR",
    "cLOW DOTTED TONE BARcEXTRA-LOW DOTTED TONE BARdHIGH DOTTED LEFT-STEM TONE BAR",
    "cHIGH DOTTED LEFT-STEM TONE BARcMID DOTTED LEFT-STEM TONE BARcLOW DOTTED LEFT-STEM TONE BAR",
    "cEXTRA-LOW DOTTED LEFT-STEM TONE BARdHIGH LEFT-STEM TONE BARcHIGH LEFT-STEM TONE BAR",
    "cMID LEFT-STEM TONE BARcLOW LEFT-STEM TONE BARcEXTRA-LOW LEFT-STEM TONE BAR",
    "cDOT VERTICAL BARdSLASHdHORIZONTAL BARcLOWER uCORNER ANGLEcRAISED UP zdDOWN z",
    "dEXCLAMATION MARKdINVERTED EXCLAMATION MARKcLOW INVERTED EXCLAMATION MARKcSTRESS tHIGH TONE",
    "eLOW TONEaLATIN omEGYPTOLOGICAL ALEFbpmEGYPTOLOGICAL ALEFbomEGYPTOLOGICAL AIN",
    "bpmEGYPTOLOGICAL AINbomHENGbpmHENGbomTZbpmTZbomTRESILLObpmTRESILLObomCUATRILLObpmCUATRILLO",
    "bomCUATRILLO nCOMMAbpmCUATRILLO nCOMMAbmpoFeSbomAAbpmAAbomAObpmAObomAUbpmAUbomAVbpmAV",
    "bomAV nHORIZONTAL BARbpmAV nHORIZONTAL BARbomAYbpmAYbomREVERSED C nDOTbpmREVERSED C nDOT",
    "bomK nSTROKEbpmK nSTROKEbomK nDIAGONAL STROKEbpmK nDIAGONAL STROKE",
    "bomK nSTROKE tDIAGONAL STROKEbpmK nSTROKE tDIAGONAL STROKEbomBROKEN LbpmBROKEN L",
    "bomL nHIGH STROKEbpmL nHIGH STROKEbomO nLONG STROKE OVERLAYbpmO nLONG STROKE OVERLAY",
    "bomO nLOOPbpmO nLOOPbomOObpmOObomP nSTROKE THROUGH DESCENDERbpmP nSTROKE THROUGH DESCENDER",
    "bomP nFLOURISHbpmP nFLOURISHbomP nSQUIRREL TAILbpmP nSQUIRREL TAIL",
    "bomQ nSTROKE THROUGH DESCENDERbpmQ nSTROKE THROUGH DESCENDERbomQ nDIAGONAL STROKE",
    "bpmQ nDIAGONAL STROKEbomR ROTUNDAbpmR ROTUNDAbomRUM ROTUNDAbpmRUM ROTUNDA",
    "bomV nDIAGONAL STROKEbpmV nDIAGONAL STROKEbomVYbpmVYbomVISIGOTHIC ZbpmVISIGOTHIC Z",
    "bomTHORN nSTROKEbpmTHORN nSTROKEbomTHORN nSTROKE THROUGH DESCENDER",
    "bpmTHORN nSTROKE THROUGH DESCENDERbomVENDbpmVENDbomETbpmETbomISbpmISbomCONbpmCON",
    "aMODIFIER mUSaLATIN pmDUMdLUMdMUMdNUMdRUMbmpoRUMbpmTUMdUMbomINSULAR DbpmINSULAR D",
    "bomINSULAR FbpmINSULAR FbomINSULAR GdTURNED INSULAR GbpmTURNED INSULAR GbomTURNED L",
    "bpmTURNED LbomINSULAR RbpmINSULAR RbomINSULAR SbpmINSULAR SbomINSULAR TbpmINSULAR T",
    "aMODIFIER mLOW CIRCUMFLEX ACCENTcCOLONcSHORT EQUALS SIGNaLATIN omSALTILLObpmSALTILLO",
    "bomTURNED HbpmL nRETROFLEX HOOK tBELTbmSINOLOGICAL DOTbomN nDESCENDERbpmN nDESCENDER",
    "bomC nBARbpmC nBARfPALATAL HOOKdH nPALATAL HOOKbomB nFLOURISHbpmB nFLOURISHbomF nSTROKE",
    "bpmF nSTROKEbomVOLAPUK AEbpmVOLAPUK AEbomVOLAPUK OEbpmVOLAPUK OEbomVOLAPUK UEbpmVOLAPUK UE",
    "bomG nOBLIQUE STROKEbpmG nOBLIQUE STROKEbomK nOBLIQUE STROKEbpmK nOBLIQUE STROKE",
    "bomN nOBLIQUE STROKEbpmN nOBLIQUE STROKEbomR nOBLIQUE STROKEbpmR nOBLIQUE STROKE",
    "bomS nOBLIQUE STROKEbpmS nOBLIQUE STROKEbomH nHOOKdREVERSED OPEN EdSCRIPT GdL nBELTdpoI",
    "bmpoQbomTURNED KeTdJ nCROSSED-TAILdCHIdBETAbpmBETAbomOMEGAbpmOMEGAbomU nSTROKEbpmU nSTROKE",
    "bomGLOTTAL AbpmGLOTTAL AbomGLOTTAL IbpmGLOTTAL IbomGLOTTAL UbpmGLOTTAL UbomOLD POLISH O",
    "bpmOLD POLISH ObomANGLICANA WbpmANGLICANA WbomC nPALATAL HOOKdS nHOOKdZ nPALATAL HOOK",
    "dD nSHORT STROKE OVERLAYbpmD nSHORT STROKE OVERLAYbomS nSHORT STROKE OVERLAY",
    "bpmS nSHORT STROKE OVERLAY"]⟩,
  ⟨0xa7d0, ["aLATIN omCLOSED INSULAR GbpmCLOSED INSULAR G"]⟩, ⟨0xa7d3, ["aLATIN pmwTHORN"]⟩,
  ⟨0xa7d5, ["aLATIN pmwWYNNbomMIDDLE SCOTS SbpmMIDDLE SCOTS SbomSIGMOID SbpmSIGMOID S"]⟩,
  ⟨0xa7f2,
   ["aMODIFIER moCdFdQaLATIN omREVERSED HALF HbpmREVERSED HALF HbEPIGRAPHIC mSIDEWAYS I",
    "aMODIFIER moH nSTROKEcpLIGATURE OEaLATIN mpoTURNED MbEPIGRAPHIC mREVERSED FePdINVERTED M",
    "dI LONGAdARCHAIC MaSYLOTI NAGRI mAdIcyDVISVARAcmUdEdOcyHASANTAcmKOdKHOdGOdGHOcyANUSVARAcmCO",
    "dCHOdJOdJHOdTTOdTTHOdDDOdDDHOdTOdTHOdDOdDHOdNOdPOdPHOdBOdBHOdMOdROdLOdRROdSOdHOcVOWEL yAeI",
    "eUeEeOOcPOETRY MARK-1e2e3e4cyALTERNATE HASANTA"]⟩,
  ⟨0xa830,
   ["aNORTH INDIC FRACTION ONE QUARTEReHALFdTHREE QUARTERSdONE SIXTEENTHeEIGHTHdTHREE SIXTEENTHS",
    "cQUARTER MARKcPLACEHOLDER MARKcRUPEE MARKcQUANTITY MARK"]⟩,
  ⟨0xa840,
   ["aPHAGS-PA mKAdKHAdGAdNGAdCAdCHAdJAdNYAdTAdTHAdDAdNAdPAdPHAdBAdMAdTSAdTSHAdDZAdWAdZHAdZAdpA",
    "dYAdRAdLAdSHAdSAdHAdAdIdUdEdOdQAdXAdFAdGGAdEEcSUBJOINED mWAeYAcmTTAdTTHAdDDAdNNA",
    "dALTERNATE YAdVOICELESS SHAdVOICED HAdASPIRATED FAcSUBJOINED mRAcSUPERFIXED mRA",
    "cmCANDRABINDUcSINGLE HEAD MARKcwHEAD MARKcMARK SHADdwSHAD"]⟩,
  ⟨0xa880,
   ["aSAURASHTRA yANUSVARAcVISARGAbmAcAAcIcIIcUcUUcVOCALIC RdRRdLdLLcEcEEcAIcOcOOcAUcKAcKHAcGA",
    "cGHAcNGAcCAcCHAcJAcJHAcNYAcTTAcTTHAcDDAcDDHAcNNAcTAcTHAcDAcDHAcNAcPAcPHAcBAcBHAcMAcYAcRAcLA",
    "cVAcSHAcSSAcSAcHAcLLAbCONSONANT yHAARUbVOWEL yAAdIdIIdUdUUdVOCALIC ReRReLeLLdEdEEdAIdOdOO",
    "dAUbyVIRAMAcCANDRABINDU"]⟩,
  ⟨0xa8ce, ["aSAURASHTRA DANDAbwDANDAbDIGIT ZEROcONEcTWOcTHREEcFOURcFIVEcSIXcSEVENcEIGHTcNINE"]⟩,
  ⟨0xa8e0,
   ["aCOMBINING DEVANAGARI DIGIT ZEROdONEdTWOdTHREEdFOURdFIVEdSIXdSEVENdEIGHTdNINEcmAdUdKAdNAdPA",
    "dRAdVIcyAVAGRAHAaDEVANAGARI ySPACING CANDRABINDUcCANDRABINDU VIRAMAcwCANDRABINDU VIRAMA",
    "cCANDRABINDU TWOdTHREEdAVAGRAHAcPUSHPIKAbGAP FILLERbCARETbHEADSTROKEbySIDDHAMbJAIN OMbmAY",
    "bVOWEL yAYaKAYAH LI DIGIT ZEROdONEdTWOdTHREEdFOURdFIVEdSIXdSEVENdEIGHTdNINEcmKAdKHAdGAdNGA",
    "dSAdSHAdZAdNYAdTAdHTAdNAdPAdPHAdMAdDAdBAdRAdYAdLAdWAdTHAdHAdVAdCAdAdOEdIdOOcVOWEL UEdEdUdEE",
    "dOcTONE PLOPHUdCALYAdCALYA PLOPHUcyCWIdSHYAaREJANG mKAcGAcNGAcTAcDAcNAcPAcBAcMAcCAcJAcNYA",
    "cSAcRAcLAcYAcWAcHAcMBAcNGGAcNDAcNYJAcAbVOWEL yIdUdEdAIdOdAUdEUdEAbCONSONANT yNGdNdRdH",
    "bVIRAMA"]⟩,
  ⟨0xa95f,
   ["aREJANG SECTION MARKaHANGUL CHOSEONG TIKEUT-MIEUMdPIEUPdSIOSdCIEUCcRIEUL-KIYEOKdSSANGKIYEOK",
    "dTIKEUTdSSANGTIKEUTdMIEUMdPIEUPdSSANGPIEUPdKAPYEOUNPIEUPdSIOSdCIEUCdKHIEUKHcMIEUM-KIYEOK",
    "dTIKEUTdSIOScPIEUP-SIOS-THIEUTHdKHIEUKHdHIEUHcSSANGSIOS-PIEUPcIEUNG-RIEULdHIEUH",
    "cSSANGCIEUC-HIEUHcSSANGTHIEUTHcPHIEUPH-HIEUHcHIEUH-SIOScSSANGYEORINHIEUH"]⟩,
  ⟨0xa980,
   ["aJAVANESE yPANYANGGAcCECAKcLAYARcWIGNYANbmAcI KAWIcIcIIcUcPA CEREKcNGA LELETdLELET RASWADI",
    "cEcAIcOcKAcKA SASAKdMURDAcGAcGA MURDAcNGAcCAcCA MURDAcJAcNYA MURDAcJA MAHAPRANAcNYAcTTA",
    "cTTA MAHAPRANAcDDAcDDA MAHAPRANAcNA MURDAcTAcTA MURDAcDAcDA MAHAPRANAcNAcPAcPA MURDAcBA",
    "cBA MURDAcMAcYAcRAcRA AGUNGcLAcWAcSA MURDAdMAHAPRANAcSAcHAbyCECAK TELUbVOWEL yTARUNGdTOLONG",
    "dWULUdWULU MELIKdSUKUdSUKU MENDUTdTALINGdDIRGA MUREdPEPETbCONSONANT yKERETdPENGKALdCAKRA",
    "bPANGKONbxRERENGGANbuRERENGGANbPADA ANDAPcMADYAcLUHURcWINDUcPANGKATcLINGSAcLUNGSIcADEG",
    "cADEG ADEGcPISELEHbTURNED PADA PISELEH"]⟩,
  ⟨0xa9cf, ["aJAVANESE PANGRANGKEPbDIGIT ZEROcONEcTWOcTHREEcFOURcFIVEcSIXcSEVENcEIGHTcNINE"]⟩,
  ⟨0xa9de,
   ["aJAVANESE PADA TIRTA TUMETEScISEN-ISENaMYANMAR mSHAN GHAdCHAdJHAdNNAdBHAbySHAN SAW",
    "bMODIFIER mSHAN REDUPLICATIONbmTAI LAING NYAeFAeGAeGHAeJAeJHAeDDAeDDHAeNNA",
    "bTAI LAING DIGIT ZEROeONEeTWOeTHREEeFOUReFIVEeSIXeSEVENeEIGHTeNINEbmTAI LAING LLAeDAeDHAeBA",
    "eBHA"]⟩,
  ⟨0xaa00,
   ["aCHAM mAcIcUcEcAIcOcKAcKHAcGAcGHAcNGUEcNGAcCHAcCHHAcJAcJHAcNHUEcNHAcNHJAcTAcTHAcDAcDHAcNUE",
    "cNAcDDAcPAcPPAcPHAcBAcBHAcMUEcMAcBBAcYAcRAcLAcVAcSSAcSAcHAbVOWEL yAAdIdIIdEIdUdOEdOdAIdAU",
    "dUEbCONSONANT yYAdRAdLAdWA"]⟩,
  ⟨0xaa40,
   ["aCHAM mFINAL KdGdNGbCONSONANT yFINAL NGbmFINAL CHdTdNdPdYdRdLdSSbCONSONANT yFINAL MeH"]⟩,
  ⟨0xaa50, ["aCHAM DIGIT ZEROcONEcTWOcTHREEcFOURcFIVEcSIXcSEVENcEIGHTcNINE"]⟩,
  ⟨0xaa5c,
   ["aCHAM PUNCTUATION SPIRALcDANDAcwDANDAcTRIPLE DANDAaMYANMAR mKHAMTI GAdCAdCHAdJAdJHAdNYAdTTA",
    "dTTHAdDDAdDDHAdDHAdNAdSAdHAdHHAdFAbMODIFIER mKHAMTI REDUPLICATIONbmKHAMTI XAdZAdRA",
    "bLOGOGRAM KHAMTI OAYdQNdHMbSYMBOL AITON EXCLAMATIONdONEdTWObmAITON RAbyPAO KAREN TONE",
    "cTAI LAING TONE-2f5bmSHWE PALAUNG CHAeSHAaTAI VIET mLOW KOdHIGH KOdLOW KHOdHIGH KHO",
    "dLOW KHHOdHIGH KHHOdLOW GOdHIGH GOdLOW NGOdHIGH NGOdLOW COdHIGH COdLOW CHOdHIGH CHOdLOW SO",
    "dHIGH SOdLOW NYOdHIGH NYOdLOW DOdHIGH DOdLOW TOdHIGH TOdLOW THOdHIGH THOdLOW NOdHIGH NO",
    "dLOW BOdHIGH BOdLOW POdHIGH POdLOW PHOdHIGH PHOdLOW FOdHIGH FOdLOW MOdHIGH MOdLOW YO",
    "dHIGH YOdLOW ROdHIGH ROdLOW LOdHIGH LOdLOW VOdHIGH VOdLOW HOdHIGH HOdLOW OdHIGH OcMAI KANG",
    "cVOWEL AAdIdUEdUdEdOcMAI KHITcVOWEL IAdUEAdUAdAUEdAYdANdAMcTONE MAI EKeNUENGeTHOeSONG"]⟩,
  ⟨0xaadb,
   ["aTAI VIET SYMBOL KONdNUENGdSAMdHO HOIdKOI KOIaMEETEI MAYEK mEdOdCHAdNYAdTTAdTTHAdDDAdDDHA",
    "dNNAdSHAdSSAcVOWEL yIIeUUeAAIeAUeAAUcCHEIKHANcAHANG KHUDAMcANJIcSYLLABLE REPETITION MARK",
    "cWORD REPETITION MARKcVOWEL yVISARGAcVIRAMA"]⟩,
  ⟨0xab01, ["aETHIOPIC SYLLABLE TTHUcTTHIcTTHAAcTTHEEcTTHEcTTHO"]⟩,
  ⟨0xab09, ["aETHIOPIC SYLLABLE DDHUcDDHIcDDHAAcDDHEEcDDHEcDDHO"]⟩,
  ⟨0xab11, ["aETHIOPIC SYLLABLE DZUcDZIcDZAAcDZEEcDZEcDZO"]⟩,
  ⟨0xab20, ["aETHIOPIC SYLLABLE CCHHAcCCHHUcCCHHIcCCHHAAcCCHHEEcCCHHEcCCHHO"]⟩,
  ⟨0xab28, ["aETHIOPIC SYLLABLE BBAcBBUcBBIcBBAAcBBEEcBBEcBBO"]⟩,
  ⟨0xab30,
   ["aLATIN pmBARRED ALPHAdA REVERSED-SCHWAdBLACKLETTER EdBARRED EdE nFLOURISHdLENIS F",
    "dSCRIPT G nCROSSED-TAILdL nINVERTED LAZY SfwMIDDLE TILDEfMIDDLE RINGdM nCROSSED-TAIL",
    "dN nCROSSED-TAILdENG nCROSSED-TAILdBLACKLETTER OeO nSTROKEdOPEN O nSTROKEdINVERTED OE",
    "dTURNED OE nSTROKEgHORIZONTAL STROKEeO OPEN-OgO nSTROKEdSTIRRUP RbmpoR nuLEG",
    "bpmR WITHOUT HANDLEdwRdR nCROSSED-TAILdwR nCROSSED-TAILdSCRIPT ReR nRINGdBASELINE ESH",
    "dU nSHORT uLEGeBAR nSHORT uLEGdUIdTURNED UIdU nxHOOKdCHIdCHI nLOW uRINGgxSERIFdX nLOW uRING",
    "fLONG xLEGhLEG tLOW uRINGinSERIFdY nSHORT uLEGaMODIFIER BREVE nINVERTED BREVEbmpHENG",
    "dL nINVERTED LAZY SfMIDDLE TILDEdU nxHOOKaLATIN pmSAKHA YATdIOTIFIED EdOPEN OEdUO",
    "dINVERTED ALPHAaGREEK mpoOMEGAaLATIN pmDZ DIGRAPH nRETROFLEX HOOK",
    "dTS DIGRAPH nRETROFLEX HOOKdTURNED R nMIDDLE TILDEaMODIFIER mpTURNED WcxTACKcuTACK"]⟩,
  ⟨0xab70,
   ["aCHEROKEE pmAdEdIdOdUdVdGAdKAdGEdGIdGOdGUdGVdHAdHEdHIdHOdHUdHVdLAdLEdLIdLOdLUdLVdMAdMEdMI",
    "dMOdMUdNAdHNAdNAHdNEdNIdNOdNUdNVdQUAdQUEdQUIdQUOdQUUdQUVdSAdSdSEdSIdSOdSUdSVdDAdTAdDEdTEdDI",
    "dTIdDOdDUdDVdDLAdTLAdTLEdTLIdTLOdTLUdTLVdTSAdTSEdTSIdTSOdTSUdTSVdWAdWEdWIdWOdWUdWVdYA",
    "aMEETEI MAYEK mKOKdSAMdLAIdMITdPAdNAdCHILdTILdKHOUdNGOUdTHOUdWAIdYANGdHUKdUNdIdPHAMdATIYA",
    "dGOKdJHAMdRAIdBAdJILdDILdGHOUdDHOUdBHAMdKOK LONSUMdLAI LONSUMdMIT LONSUMdPA LONSUM",
    "dNA LONSUMdTIL LONSUMdNGOU LONSUMdI LONSUMcVOWEL yONAPeINAPeANAPeYENAPeSOUNAPeUNAPeCHEINAP",
    "eNUNGcCHEIKHEIcLUM IYEKcAPUN IYEK"]⟩,
  ⟨0xabf0, ["aMEETEI MAYEK DIGIT ZEROdONEdTWOdTHREEdFOURdFIVEdSIXdSEVENdEIGHTdNINE"]⟩,
  ⟨0xd7b0,
   ["aHANGUL JUNGSEONG O-YEOdO-IcYO-AdAEdEOcU-YEOdI-IcYU-AEdOcEU-AdEOdEdOcI-YA-OdYAEdYEOdYEdO-I",
    "dYOdYUdIcARAEA-AdE"]⟩,
  ⟨0xd7cb,
   ["aHANGUL JONGSEONG NIEUN-RIEULdCHIEUCHcSSANGTIKEUTcSSANGTIKEUT-PIEUPcTIKEUT-PIEUPdSIOS",
    "dSIOS-KIYEOKdCIEUCdCHIEUCHdTHIEUTHcRIEUL-SSANGKIYEOKdKIYEOK-HIEUHcSSANGRIEUL-KHIEUKH",
    "cRIEUL-MIEUM-HIEUHdPIEUP-TIKEUTePHIEUPHdYESIEUNGdYEORINHIEUH-HIEUHcKAPYEOUNRIEUL",
    "cMIEUM-NIEUNdSSANGNIEUNcSSANGMIEUMcMIEUM-PIEUP-SIOSdCIEUCcPIEUP-TIKEUTdRIEUL-PHIEUPHdMIEUM",
    "cSSANGPIEUPcPIEUP-SIOS-TIKEUTdCIEUCdCHIEUCHcSIOS-MIEUMdKAPYEOUNPIEUPcSSANGSIOS-KIYEOK",
    "dTIKEUTcSIOS-PANSIOSdCIEUCdCHIEUCHdTHIEUTHdHIEUHcPANSIOS-PIEUPdKAPYEOUNPIEUPcYESIEUNG-MIEUM",
    "dHIEUHcCIEUC-PIEUPdSSANGPIEUPcSSANGCIEUCcPHIEUPH-SIOSdTHIEUTH"]⟩,
  ⟨0xfb00, ["aLATIN pLIGATURE FFdFIdFLdFFIdFFLdLONG S TdST"]⟩,
  ⟨0xfb13, ["aARMENIAN pLIGATURE MEN NOWeECHeINIdVEW NOWdMEN XEH"]⟩,
  ⟨0xfb1d,
   ["aHEBREW mYOD nHIRIQbPOINT JUDEO-SPANISH VARIKAbLIGATURE YIDDISH YOD YOD PATAH",
    "bmALTERNATIVE AYINcWIDE ALEFdDALETdHEdKAFdLAMEDdFINAL MEMdRESHdTAVcALTERNATIVE PLUS SIGN",
    "cSHIN nSHIN DOTeSIN DOTeDAGESH tSHIN DOTgSIN DOTcALEF nPATAHeQAMATSeMAPIQcBET nDAGESH",
    "cGIMEL nDAGESHcDALET nDAGESHcHE nMAPIQcVAV nDAGESHcZAYIN nDAGESH"]⟩,
  ⟨0xfb38, ["aHEBREW mTET nDAGESHcYOD nDAGESHcFINAL KAF nDAGESHcKAF nDAGESHcLAMED nDAGESH"]⟩,
  ⟨0xfb3e, ["aHEBREW mMEM nDAGESH"]⟩, ⟨0xfb40, ["aHEBREW mNUN nDAGESHcSAMEKH nDAGESH"]⟩,
  ⟨0xfb43, ["aHEBREW mFINAL PE nDAGESHcPE nDAGESH"]⟩,
  ⟨0xfb46,
   ["aHEBREW mTSADI nDAGESHcQOF nDAGESHcRESH nDAGESHcSHIN nDAGESHcTAV nDAGESHcVAV nHOLAM",
    "cBET nRAFEcKAF nRAFEcPE nRAFEbLIGATURE ALEF LAMEDaARABIC mALEF WASLA qercBEEH qdrds",
    "dMEDIAL FORMcPEH qdrdsdMEDIAL FORMcBEHEH qdrdsdMEDIAL FORMcTTEHEH qdrdsdMEDIAL FORMcTEHEH q",
    "drdsdMEDIAL FORMcTTEH qdrdsdMEDIAL FORMcVEH qdrdsdMEDIAL FORMcPEHEH qdrdsdMEDIAL FORM",
    "cDYEH qdrdsdMEDIAL FORMcNYEH qdrdsdMEDIAL FORMcTCHEH qdrdsdMEDIAL FORMcTCHEHEH qdrds",
    "dMEDIAL FORMcDDAHAL qdrcDAHAL qdrcDUL qdrcDDAL qdrcJEH qdrcRREH qdrcKEHEH qdrdsdMEDIAL FORM",
    "cGAF qdrdsdMEDIAL FORMcGUEH qdrdsdMEDIAL FORMcNGOEH qdrdsdMEDIAL FORMcNOON GHUNNA qer",
    "cRNOON qdrdsdMEDIAL FORMcHEH nYEH ABOVE qgrdGOAL qereseMEDIAL FORMdDOACHASHMEE qeres",
    "eMEDIAL FORMcYEH BARREE qerenHAMZA ABOVE qhrbSYMBOL DOT ABOVEdBELOWcTWO DOTS ABOVEeBELOW",
    "cTHREE DOTS ABOVEeBELOWePOINTING DOWNWARDS ABOVEgBELOWcFOUR DOTS ABOVEeBELOW",
    "cwVERTICAL BAR BELOWcTWO DOTS VERTICALLY ABOVEfBELOWcRINGcpTAH ABOVEeBELOWcWASLA ABOVE"]⟩,
  ⟨0xfbd3,
   ["aARABIC mNG qdrdsdMEDIAL FORMcU qdrcOE qdrcYU qdrcU nHAMZA ABOVE qcVE qdrcKIRGHIZ OE qer",
    "dYU qercE qdrdsdMEDIAL FORMcUIGHUR KAZAKH KIRGHIZ ALEF MAKSURA shMEDIAL FORM",
    "bLIGATURE YEH nHAMZA ABOVE nALEF qirhAE qirhWAW qirhU qirhOE qirhYU qirhE qiris",
    "cUIGHUR KIRGHIZ YEH nHAMZA ABOVE nALEF MAKSURA qlrlsbmFARSI YEH qereseMEDIAL FORM",
    "bLIGATURE YEH nHAMZA ABOVE nJEEM qhHAH qhMEEM qhALEF MAKSURA qhYEH qcBEH nJEEM qeHAH q",
    "eKHAH qeMEEM qeALEF MAKSURA qeYEH qcTEH nJEEM qeHAH qeKHAH qeMEEM qeALEF MAKSURA qeYEH q",
    "cTHEH nJEEM qeMEEM qeALEF MAKSURA qeYEH qcJEEM nHAH qeMEEM qcHAH nJEEM qeMEEM q",
    "cKHAH nJEEM qeHAH qeMEEM qcSEEN nJEEM qeHAH qeKHAH qeMEEM qcSAD nHAH qeMEEM qcDAD nJEEM q",
    "eHAH qeKHAH qeMEEM qcTAH nHAH qeMEEM qcZAH nMEEM qcAIN nJEEM qeMEEM qcGHAIN nJEEM qeMEEM q",
    "cFEH nJEEM qeHAH qeKHAH qeMEEM qeALEF MAKSURA qeYEH qcQAF nHAH qeMEEM qeALEF MAKSURA q",
    "eYEH qcKAF nALEF qeJEEM qeHAH qeKHAH qeLAM qeMEEM qeALEF MAKSURA qeYEH qcLAM nJEEM qeHAH q",
    "eKHAH qeMEEM qeALEF MAKSURA qeYEH qcMEEM nJEEM qeHAH qeKHAH qeMEEM qeALEF MAKSURA qeYEH q",
    "cNOON nJEEM qeHAH qeKHAH qeMEEM qeALEF MAKSURA qeYEH qcHEH nJEEM qeMEEM qeALEF MAKSURA q",
    "eYEH qcYEH nJEEM qeHAH qeKHAH qeMEEM qeALEF MAKSURA qeYEH qcTHAL nSUPERSCRIPT ALEF q",
    "cREH nSUPERSCRIPT ALEF qcALEF MAKSURA nSUPERSCRIPT ALEF qcSHADDA nDAMMATAN qeKASRATAN q",
    "eFATHA qeDAMMA qeKASRA qeSUPERSCRIPT ALEF qcYEH nHAMZA ABOVE nREH rhZAIN rhMEEM rhNOON r",
    "hALEF MAKSURA rhYEH rcBEH nREH reZAIN reMEEM reNOON reALEF MAKSURA reYEH rcTEH nREH r",
    "eZAIN reMEEM reNOON reALEF MAKSURA reYEH rcTHEH nREH reZAIN reMEEM reNOON reALEF MAKSURA r",
    "eYEH rcFEH nALEF MAKSURA reYEH rcQAF nALEF MAKSURA reYEH rcKAF nALEF reLAM reMEEM r",
    "eALEF MAKSURA reYEH rcLAM nMEEM reALEF MAKSURA reYEH rcMEEM nALEF reMEEM rcNOON nREH r",
    "eZAIN reMEEM reNOON reALEF MAKSURA reYEH rcALEF MAKSURA nSUPERSCRIPT ALEF rcYEH nREH r",
    "eZAIN reMEEM reNOON reALEF MAKSURA reYEH reHAMZA ABOVE nJEEM shHAH shKHAH shMEEM shHEH s",
    "cBEH nJEEM seHAH seKHAH seMEEM seHEH scTEH nJEEM seHAH seKHAH seMEEM seHEH scTHEH nMEEM s",
    "cJEEM nHAH seMEEM scHAH nJEEM seMEEM scKHAH nJEEM seMEEM scSEEN nJEEM seHAH seKHAH seMEEM s",
    "cSAD nHAH seKHAH seMEEM scDAD nJEEM seHAH seKHAH seMEEM scTAH nHAH scZAH nMEEM s",
    "cAIN nJEEM seMEEM scGHAIN nJEEM seMEEM scFEH nJEEM seHAH seKHAH seMEEM scQAF nHAH seMEEM s",
    "cKAF nJEEM seHAH seKHAH seLAM seMEEM scLAM nJEEM seHAH seKHAH seMEEM seHEH scMEEM nJEEM s",
    "eHAH seKHAH seMEEM scNOON nJEEM seHAH seKHAH seMEEM seHEH scHEH nJEEM seMEEM s",
    "eSUPERSCRIPT ALEF scYEH nJEEM seHAH seKHAH seMEEM seHEH seHAMZA ABOVE nMEEM MEDIAL FORM",
    "hHEH MEDIAL FORMcBEH nMEEM MEDIAL FORMeHEH MEDIAL FORMcTEH nMEEM MEDIAL FORM",
    "eHEH MEDIAL FORMcTHEH nMEEM MEDIAL FORMeHEH MEDIAL FORMcSEEN nMEEM MEDIAL FORM",
    "eHEH MEDIAL FORMcSHEEN nMEEM MEDIAL FORMeHEH MEDIAL FORMcKAF nLAM MEDIAL FORM",
    "eMEEM MEDIAL FORMcLAM nMEEM MEDIAL FORMcNOON nMEEM MEDIAL FORMeHEH MEDIAL FORM",
    "cYEH nMEEM MEDIAL FORMeHEH MEDIAL FORMcSHADDA nFATHA MEDIAL FORMeDAMMA MEDIAL FORM",
    "eKASRA MEDIAL FORMcTAH nALEF MAKSURA qeYEH qcAIN nALEF MAKSURA qeYEH q",
    "cGHAIN nALEF MAKSURA qeYEH qcSEEN nALEF MAKSURA qeYEH qcSHEEN nALEF MAKSURA qeYEH q",
    "cHAH nALEF MAKSURA qeYEH qcJEEM nALEF MAKSURA qeYEH qcKHAH nALEF MAKSURA qeYEH q",
    "cSAD nALEF MAKSURA qeYEH qcDAD nALEF MAKSURA qeYEH qcSHEEN nJEEM qeHAH qeKHAH qeMEEM q",
    "eREH qcSEEN nREH qcSAD nREH qcDAD nREH qcTAH nALEF MAKSURA reYEH rcAIN nALEF MAKSURA r",
    "eYEH rcGHAIN nALEF MAKSURA reYEH rcSEEN nALEF MAKSURA reYEH rcSHEEN nALEF MAKSURA reYEH r",
    "cHAH nALEF MAKSURA reYEH rcJEEM nALEF MAKSURA reYEH rcKHAH nALEF MAKSURA reYEH r",
    "cSAD nALEF MAKSURA reYEH rcDAD nALEF MAKSURA reYEH rcSHEEN nJEEM reHAH reKHAH reMEEM r",
    "eREH rcSEEN nREH rcSAD nREH rcDAD nREH rcSHEEN nJEEM seHAH seKHAH seMEEM scSEEN nHEH s",
    "cSHEEN nHEH scTAH nMEEM scSEEN nJEEM MEDIAL FORMeHAH MEDIAL FORMeKHAH MEDIAL FORM",
    "cSHEEN nJEEM MEDIAL FORMeHAH MEDIAL FORMeKHAH MEDIAL FORMcTAH nMEEM MEDIAL FORM",
    "cZAH nMEEM MEDIAL FORMcALEF nFATHATAN rfqaORNATE xPARENTHESISbuPARENTHESIS",
    "aARABIC LIGATURE RAHIMAHU ALLAAHcRADI ALLAAHU ANHeANHAAeANHUMeANHUMAAeANHUNNA",
    "cSALLALLAAHU ALAYHI WA-AALIHcALAYHI AS-SALAAMcALAYHIM AS-SALAAMcALAYHIMAA AS-SALAAM",
    "cALAYHI AS-SALAATU WAS-SALAAMcQUDDISA SIRRAHcSALLALLAHU ALAYHI WAAALIHEE WA-SALLAM",
    "cALAYHAA AS-SALAAMcTABAARAKA WA-TAAALAAcRAHIMAHUM ALLAAHcTEH nJEEM nMEEM seHAH nJEEM rhs",
    "gMEEM seKHAH nMEEM seMEEM nJEEM sgHAH sgKHAH scJEEM nMEEM nHAH rhscHAH nMEEM nYEH r",
    "gALEF MAKSURA rcSEEN nHAH nJEEM seJEEM nHAH sgALEF MAKSURA reMEEM nHAH rhsgJEEM sgMEEM rhs",
    "cSAD nHAH nHAH rhseMEEM nMEEM rcSHEEN nHAH nMEEM rhseJEEM nYEH reMEEM nKHAH rhsgMEEM rhs",
    "cDAD nHAH nALEF MAKSURA reKHAH nMEEM rhscTAH nMEEM nHAH rhsgMEEM sgYEH rcAIN nJEEM nMEEM r",
    "eMEEM nMEEM rhsgALEF MAKSURA rcGHAIN nMEEM nMEEM rgYEH rgALEF MAKSURA rcFEH nKHAH nMEEM rhs",
    "cQAF nMEEM nHAH rgMEEM rcLAM nHAH nMEEM rgYEH rgALEF MAKSURA reJEEM nJEEM shreKHAH nMEEM r",
    "hseMEEM nHAH rhscMEEM nHAH nJEEM sgMEEM sgYEH reJEEM nHAH sgMEEM seKHAH nJEEM sgMEEM s"]⟩,
  ⟨0xfd92,
   ["aARABIC LIGATURE MEEM nJEEM nKHAH scHEH nMEEM nJEEM sgMEEM scNOON nHAH nMEEM s",
    "gALEF MAKSURA reJEEM nMEEM rhsgALEF MAKSURA reMEEM nYEH rgALEF MAKSURA rcYEH nMEEM nMEEM r",
    "hscBEH nKHAH nYEH rcTEH nJEEM nYEH rgALEF MAKSURA reKHAH nYEH rgALEF MAKSURA reMEEM nYEH r",
    "gALEF MAKSURA rcJEEM nMEEM nYEH reHAH nALEF MAKSURA reMEEM nALEF MAKSURA r",
    "cSEEN nKHAH nALEF MAKSURA rcSAD nHAH nYEH rcSHEEN nHAH nYEH rcDAD nHAH nYEH r",
    "cLAM nJEEM nYEH reMEEM nYEH rcYEH nHAH nYEH reJEEM nYEH reMEEM nYEH rcMEEM nMEEM nYEH r",
    "cQAF nMEEM nYEH rcNOON nHAH nYEH rcQAF nMEEM nHAH scLAM nHAH nMEEM scAIN nMEEM nYEH r",
    "cKAF nMEEM nYEH rcNOON nJEEM nHAH scMEEM nKHAH nYEH rcLAM nJEEM nMEEM scKAF nMEEM nMEEM r",
    "cLAM nJEEM nMEEM rcNOON nJEEM nHAH rcJEEM nHAH nYEH rcHAH nJEEM nYEH rcMEEM nJEEM nYEH r",
    "cFEH nMEEM nYEH rcBEH nHAH nYEH rcKAF nMEEM nMEEM scAIN nJEEM nMEEM scSAD nMEEM nMEEM s",
    "cSEEN nKHAH nYEH rcNOON nJEEM nYEH r"]⟩,
  ⟨0xfdcf, ["aARABIC LIGATURE SALAAMUHU ALAYNAA"]⟩,
  ⟨0xfdf0,
   ["aARABIC LIGATURE SALLA USED AS KORANIC STOP yqcQALA USED AS KORANIC STOP yqcALLAH qcAKBAR q",
    "cMOHAMMAD qcSALAM qcRASOUL qcALAYHE qcWASALLAM qcSALLA qcSALLALLAHOU ALAYHE WASALLAM",
    "cJALLAJALALOUHOUaRIAL SIGNaARABIC LIGATURE BISMILLAH AR-RAHMAN AR-RAHEEM",
    "cSUBHAANAHU WA TAAALAAcAZZA WA JALLaVARIATION SELECTOR-1c2c3c4c5c6c7c8c9c10c11c12c13c14c15",
    "c16aPRESENTATION FORM FOR VERTICAL COMMAeIDEOGRAPHIC COMMAfFULL STOPeCOLONeSEMICOLON",
    "eEXCLAMATION MARKeQUESTION MARKexWHITE LENTICULAR BRACKETeuWHITE LENTICULAR BRAKCET",
    "eHORIZONTAL ELLIPSIS"]⟩,
  ⟨0xfe20,
   ["aCOMBINING LIGATURE xHALFcuHALFbwTILDE xHALFduHALFbMACRON xHALFcuHALFbCONJOINING MACRON",
    "bLIGATURE xHALF BELOWcuHALF BELOWbTILDE xHALF BELOWcuHALF BELOWbMACRON xHALF BELOW",
    "cuHALF BELOWbCONJOINING MACRON BELOWbCYRILLIC TITLO xHALFduHALF",
    "aPRESENTATION FORM FOR VERTICAL TWO DOT LEADEReEM DASHeEN DASHeLOW LINEeWAVY LOW LINE",
    "exPARENTHESISeuPARENTHESISexCURLY BRACKETeuCURLY BRACKETexTORTOISE SHELL BRACKET",
    "euTORTOISE SHELL BRACKETexBLACK LENTICULAR BRACKETeuBLACK LENTICULAR BRACKET",
    "exwANGLE BRACKETeuwANGLE BRACKETexANGLE BRACKETeuANGLE BRACKETexCORNER BRACKET",
    "euCORNER BRACKETexWHITE CORNER BRACKETeuWHITE CORNER BRACKETaSESAME DOTaWHITE SESAME DOT",
    "aPRESENTATION FORM FOR VERTICAL xSQUARE BRACKETeuSQUARE BRACKETaDASHED OVERLINE",
    "aCENTRELINE OVERLINEaWAVY OVERLINEawWAVY OVERLINEaDASHED LOW LINEaCENTRELINE LOW LINE",
    "aWAVY LOW LINEapCOMMAbIDEOGRAPHIC COMMAbFULL STOP"]⟩,
  ⟨0xfe54,
   ["apSEMICOLONbCOLONbQUESTION MARKbEXCLAMATION MARKbEM DASHbxPARENTHESISbuPARENTHESIS",
    "bxCURLY BRACKETbuCURLY BRACKETbxTORTOISE SHELL BRACKETbuTORTOISE SHELL BRACKETbNUMBER SIGN",
    "bAMPERSANDbASTERISKbPLUS SIGNbHYPHEN-MINUSbLESS-THAN SIGNbGREATER-THAN SIGNbEQUALS SIGN"]⟩,
  ⟨0xfe68, ["apREVERSE SOLIDUSbDOLLAR SIGNbPERCENT SIGNbCOMMERCIAL AT"]⟩,
  ⟨0xfe70, ["aARABIC FATHATAN qbTATWEEL nFATHATAN ABOVEbDAMMATAN qbTAIL FRAGMENTbKASRATAN q"]⟩,
  ⟨0xfe76,
   ["aARABIC FATHA qcMEDIAL FORMbDAMMA qcMEDIAL FORMbKASRA qcMEDIAL FORMbSHADDA qcMEDIAL FORM",
    "bSUKUN qcMEDIAL FORMbmHAMZA qcALEF nMADDA ABOVE qgreHAMZA ABOVE qgrcWAW nHAMZA ABOVE qgr",
    "cALEF nHAMZA BELOW qgrcYEH nHAMZA ABOVE qgrgsgMEDIAL FORMcALEF qdrcBEH qdrdsdMEDIAL FORM",
    "cTEH MARBUTA qerdqdrdsdMEDIAL FORMcTHEH qdrdsdMEDIAL FORMcJEEM qdrdsdMEDIAL FORMcHAH qdrds",
    "dMEDIAL FORMcKHAH qdrdsdMEDIAL FORMcDAL qdrcTHAL qdrcREH qdrcZAIN qdrcSEEN qdrds",
    "dMEDIAL FORMcSHEEN qdrdsdMEDIAL FORMcSAD qdrdsdMEDIAL FORMcDAD qdrdsdMEDIAL FORMcTAH qdrds",
    "dMEDIAL FORMcZAH qdrdsdMEDIAL FORMcAIN qdrdsdMEDIAL FORMcGHAIN qdrdsdMEDIAL FORMcFEH qdrds",
    "dMEDIAL FORMcQAF qdrdsdMEDIAL FORMcKAF qdrdsdMEDIAL FORMcLAM qdrdsdMEDIAL FORMcMEEM qdrds",
    "dMEDIAL FORMcNOON qdrdsdMEDIAL FORMcHEH qdrdsdMEDIAL FORMcWAW qdrcALEF MAKSURA qercYEH qdr",
    "dsdMEDIAL FORMbLIGATURE LAM nALEF nMADDA ABOVE qirgHAMZA ABOVE qirhBELOW qirfqfr"]⟩,
  ⟨0xfeff, ["aZERO WIDTH NO-BREAK SPACE"]⟩,
  ⟨0xff01,
   ["aFULLWIDTH EXCLAMATION MARKbQUOTATION MARKbNUMBER SIGNbDOLLAR SIGNbPERCENT SIGNbAMPERSAND",
    "bAPOSTROPHEbxPARENTHESISbuPARENTHESISbASTERISKbPLUS SIGNbCOMMAbHYPHEN-MINUSbFULL STOP",
    "bSOLIDUSbDIGIT ZEROcONEcTWOcTHREEcFOURcFIVEcSIXcSEVENcEIGHTcNINEbCOLONbSEMICOLON",
    "bLESS-THAN SIGNbEQUALS SIGNbGREATER-THAN SIGNbQUESTION MARKbCOMMERCIAL ATbLATIN omAeBeCeDeE",
    "eFeGeHeIeJeKeLeMeNeOePeQeReSeTeUeVeWeXeYeZbxSQUARE BRACKETbREVERSE SOLIDUSbuSQUARE BRACKET",
    "bCIRCUMFLEX ACCENTbLOW LINEbGRAVE ACCENTbLATIN pmAeBeCeDeEeFeGeHeIeJeKeLeMeNeOePeQeReSeTeU",
    "eVeWeXeYeZbxCURLY BRACKETbVERTICAL LINEbuCURLY BRACKETbTILDEbxWHITE PARENTHESIS",
    "buWHITE PARENTHESISaHALFWIDTH IDEOGRAPHIC FULL STOPbxCORNER BRACKETbuCORNER BRACKET",
    "bIDEOGRAPHIC COMMAbKATAKANA MIDDLE DOTcmWOdpAeIeUeEeOeYAeYUeYOeTU",
    "bKATAKANA-HIRAGANA PROLONGED SOUND MARKbKATAKANA mAdIdUdEdOdKAdKIdKUdKEdKOdSAdSIdSUdSEdSO",
    "dTAdTIdTUdTEdTOdNAdNIdNUdNEdNOdHAdHIdHUdHEdHOdMAdMIdMUdMEdMOdYAdYUdYOdRAdRIdRUdREdROdWAdN",
    "cVOICED SOUND MARKcSEMI-VOICED SOUND MARKbHANGUL FILLERcmKIYEOKdSSANGKIYEOKdKIYEOK-SIOS",
    "dNIEUNdNIEUN-CIEUCeHIEUHdTIKEUTdSSANGTIKEUTdRIEULdRIEUL-KIYEOKeMIEUMePIEUPeSIOSeTHIEUTH",
    "ePHIEUPHeHIEUHdMIEUMdPIEUPdSSANGPIEUPdPIEUP-SIOSdSIOSdSSANGSIOSdIEUNGdCIEUCdSSANGCIEUC",
    "dCHIEUCHdKHIEUKHdTHIEUTHdPHIEUPHdHIEUH"]⟩,
  ⟨0xffc2, ["aHALFWIDTH HANGUL mAdAEdYAdYAEdEOdE"]⟩,
  ⟨0xffca, ["aHALFWIDTH HANGUL mYEOdYEdOdWAdWAEdOE"]⟩,
  ⟨0xffd2, ["aHALFWIDTH HANGUL mYOdUdWEOdWEdWIdYU"]⟩, ⟨0xffda, ["aHALFWIDTH HANGUL mEUdYIdI"]⟩,
  ⟨0xffe0, ["aFULLWIDTH CENT SIGNbPOUND SIGNbNOT SIGNbMACRONbBROKEN BARbYEN SIGNbWON SIGN"]⟩,
  ⟨0xffe8,
   ["aHALFWIDTH FORMS LIGHT VERTICALbLEFTWARDS zbUPWARDS zbvzbDOWNWARDS zbBLACK SQUARE",
    "bWHITE CIRCLE"]⟩,
  ⟨0xfff9,
   ["aINTERLINEAR ANNOTATION ANCHORcSEPARATORcTERMINATORaOBJECT REPLACEMENT CHARACTER",
    "aREPLACEMENT CHARACTER"]⟩,
  ⟨0x10000,
   ["aLINEAR B SYLLABLE B008 AdB038 EdB028 IdB061 OdB010 UdB001 DAdB045 DEdB007 DIdB014 DO",
    "dB051 DUdB057 JAdB046 JE"]⟩,
  ⟨0x1000d,
   ["aLINEAR B SYLLABLE B036 JOdB065 JUdB077 KAdB044 KEdB067 KIdB070 KOdB081 KUdB080 MAdB013 ME",
    "dB073 MIdB015 MOdB023 MUdB006 NAdB024 NEdB030 NIdB052 NOdB055 NUdB003 PAdB072 PEdB039 PI",
    "dB011 POdB050 PUdB016 QAdB078 QEdB021 QIdB032 QO"]⟩,
  ⟨0x10028,
   ["aLINEAR B SYLLABLE B060 RAdB027 REdB053 RIdB002 ROdB026 RUdB031 SAdB009 SEdB041 SIdB012 SO",
    "dB058 SUdB059 TAdB004 TEdB037 TIdB005 TOdB069 TUdB054 WAdB075 WEdB040 WIdB042 WO"]⟩,
  ⟨0x1003c, ["aLINEAR B SYLLABLE B017 ZAdB074 ZE"]⟩,
  ⟨0x1003f,
   ["aLINEAR B SYLLABLE B020 ZOdB025 A2dB043 A3dB085 AUdB071 DWEdB090 DWOdB048 NWAdB029 PU2",
    "dB062 PTEdB076 RA2dB033 RA3dB068 RO2dB066 TA2dB087 TWEdB091 TWO"]⟩,
  ⟨0x10050,
   ["aLINEAR B SYMBOL B018dB019dB022dB034dB047dB049dB056dB063dB064dB079dB082dB083dB086dB089"]⟩,
  ⟨0x10080,
   ["aLINEAR B IDEOGRAM B100 MANdB102 WOMANdB104 DEERdB105 EQUIDdB105F MAREdB105M STALLION",
    "dB106F EWEdB106M RAMdB107F SHE-GOATdB107M HE-GOATdB108F SOWdB108M BOARdB109F COWdB109M BULL",
    "dB120 WHEATdB121 BARLEYdB122 OLIVEdB123 SPICEdB125 CYPERUScMONOGRAM B127 KAPOdB128 KANAKO",
    "cIDEOGRAM B130 OILdB131 WINEdB132cMONOGRAM B133 AREPAdB135 MERIcIDEOGRAM B140 BRONZE",
    "dB141 GOLDdB142dB145 WOOLdB146dB150dB151 HORNdB152dB153dB154cMONOGRAM B156 TURO2",
    "cIDEOGRAM B157dB158dB159 CLOTHdB160dB161dB162 GARMENTdB163 ARMOURdB164dB165dB166dB167dB168",
    "dB169dB170dB171dB172dB173 MONTHdB174dB176 TREEdB177dB178dB179dB180dB181dB182dB183dB184dB185",
    "dB189dB190dB191 HELMETdB220 FOOTSTOOLdB225 BATHTUBdB230 SPEARdB231 zdB232dB233 SWORDdB234",
    "dB236dB240 WHEELED CHARIOTdB241 CHARIOTdB242 CHARIOT FRAMEdB243 WHEELdB245dB246",
    "cMONOGRAM B247 DIPTEcIDEOGRAM B248dB249dB251dB252dB253dB254 DARTdB255dB256dB257dB258dB259",
    "dVESSEL B155eB200eB201eB202eB203eB204eB205eB206eB207eB208eB209eB210eB211eB212eB213eB214",
    "eB215eB216eB217eB218eB219eB221eB222eB226eB227eB228eB229eB250eB305"]⟩,
  ⟨0x10100, ["aAEGEAN WORD SEPARATOR LINEdDOTbCHECK MARK"]⟩,
  ⟨0x10107,
   ["aAEGEAN NUMBER ONEcTWOcTHREEcFOURcFIVEcSIXcSEVENcEIGHTcNINEcTENcTWENTYcTHIRTYcFORTYcFIFTY",
    "cSIXTYcSEVENTYcEIGHTYcNINETYcONE HUNDREDcTWO HUNDREDcTHREE HUNDREDcFOUR HUNDRED",
    "cFIVE HUNDREDcSIX HUNDREDcSEVEN HUNDREDcEIGHT HUNDREDcNINE HUNDREDcONE THOUSAND",
    "cTWO THOUSANDcTHREE THOUSANDcFOUR THOUSANDcFIVE THOUSANDcSIX THOUSANDcSEVEN THOUSAND",
    "cEIGHT THOUSANDcNINE THOUSANDcTEN THOUSANDcTWENTY THOUSANDcTHIRTY THOUSANDcFORTY THOUSAND",
    "cFIFTY THOUSANDcSIXTY THOUSANDcSEVENTY THOUSANDcEIGHTY THOUSANDcNINETY THOUSAND"]⟩,
  ⟨0x10137,
   ["aAEGEAN WEIGHT BASE UNITcFIRST SUBUNITcSECOND SUBUNITcTHIRD SUBUNITcFOURTH SUBUNIT",
    "bDRY MEASURE FIRST SUBUNITbLIQUID MEASURE FIRST SUBUNITbMEASURE SECOND SUBUNIT",
    "cTHIRD SUBUNITaGREEK ACROPHONIC ATTIC ONE QUARTEReHALFeDRACHMAdFIVEdFIFTYdFIVE HUNDRED",
    "eTHOUSANDdFIFTY THOUSANDdFIVE TALENTSdTEN TALENTSdFIFTY TALENTSdONE HUNDRED TALENTS",
    "dFIVE HUNDRED TALENTSdONE THOUSAND TALENTSdFIVE THOUSAND TALENTSeSTATERSdTEN STATERS",
    "dFIFTY STATERSdONE HUNDRED STATERSdFIVE HUNDRED STATERSdONE THOUSAND STATERS",
    "dTEN THOUSAND STATERSdFIFTY THOUSAND STATERSdTEN MNAScHERAEUM ONE PLETHRONcTHESPIAN ONE",
    "cHERMIONIAN ONEcEPIDAUREAN TWOcTHESPIAN TWOcCYRENAIC TWO DRACHMAScEPIDAUREAN TWO DRACHMAS",
    "cTROEZENIAN FIVEdTENdTEN ALTERNATE FORMcHERMIONIAN TENcMESSENIAN TENcTHESPIAN TENdTHIRTY",
    "cTROEZENIAN FIFTYdFIFTY ALTERNATE FORMcHERMIONIAN FIFTYcTHESPIAN FIFTYdONE HUNDRED",
    "dTHREE HUNDREDcEPIDAUREAN FIVE HUNDREDcTROEZENIAN FIVE HUNDREDcTHESPIAN FIVE HUNDRED",
    "cCARYSTIAN FIVE HUNDREDcNAXIAN FIVE HUNDREDcTHESPIAN ONE THOUSANDdFIVE THOUSAND",
    "cDELPHIC FIVE MNAScSTRATIAN FIFTY MNASbONE HALF SIGNdyALTERNATE FORMbTWO THIRDS SIGN",
    "bTHREE QUARTERS SIGNbYEAR SIGNbTALENT SIGNbDRACHMA SIGNbOBOL SIGNbTWO OBOLS SIGN",
    "bTHREE OBOLS SIGNbFOUR OBOLS SIGNbFIVE OBOLS SIGNbMETRETES SIGNbKYATHOS BASE SIGN",
    "bLITRA SIGNbOUNKIA SIGNbXESTES SIGNbARTABE SIGNbAROURA SIGNbGRAMMA SIGNbTRYBLION BASE SIGN",
    "bZERO SIGNbONE QUARTER SIGNbSINUSOID SIGNbINDICTION SIGNaNOMISMA SIGN"]⟩,
  ⟨0x10190,
   ["aROMAN SEXTANS SIGNbUNCIA SIGNbSEMUNCIA SIGNbSEXTULA SIGNbDIMIDIA SEXTULA SIGNbSILIQUA SIGN",
    "bDENARIUS SIGNbQUINARIUS SIGNbSESTERTIUS SIGNbDUPONDIUS SIGNbAS SIGNbCENTURIAL SIGN",
    "aASCIA SYMBOL"]⟩,
  ⟨0x101a0, ["aGREEK SYMBOL TAU RHO"]⟩,
  ⟨0x101d0,
   ["aPHAISTOS DISC yPEDESTRIANdPLUMED HEADdTATTOOED HEADdCAPTIVEdCHILDdWOMANdHELMETdGAUNTLET",
    "dTIARAdzdBOWdSHIELDdCLUBdMANACLESdMATTOCKdSAWdLIDdBOOMERANGdCARPENTRY PLANEdDOLIUMdCOMB",
    "dSLINGdCOLUMNdBEEHIVEdSHIPdHORNdHIDEdBULLS LEGdCATdRAMdEAGLEdDOVEdTUNNYdBEEdPLANE TREEdVINE",
    "dPAPYRUSdROSETTEdLILYdOX BACKdFLUTEdGRATERdSTRAINERdpAXEdWAVY BANDdCOMBINING OBLIQUE STROKE"]⟩,
  ⟨0x10280, ["aLYCIAN mAcEcBcBHcGcDcIcWcZcTHcJcKcQcLcMcNcMMcNNcUcPcKKcRcScTcTTcANcENcHcX"]⟩,
  ⟨0x102a0,
   ["aCARIAN mAcP2cDcLcUUUcRcLDcA2cQcBcMcOcD2cTcSHcSH2cScC-18cUcNNcXcNcTT2cPcSScIcEcUUUUcKcK2cND",
    "cUUcGcG2cSTcST2cNGcIIcC-39cTTcUUU2cRRcMBcMB2cMB3cMB4cLD2cE2cUUU3"]⟩,
  ⟨0x102e0,
   ["aCOPTIC EPACT THOUSANDS MARKcDIGIT ONEdTWOdTHREEdFOURdFIVEdSIXdSEVENdEIGHTdNINEcNUMBER TEN",
    "dTWENTYdTHIRTYdFORTYdFIFTYdSIXTYdSEVENTYdEIGHTYdNINETYdONE HUNDREDdTWO HUNDRED",
    "dTHREE HUNDREDdFOUR HUNDREDdFIVE HUNDREDdSIX HUNDREDdSEVEN HUNDREDdEIGHT HUNDRED",
    "dNINE HUNDRED"]⟩,
  ⟨0x10300,
   ["aOLD ITALIC mAdBEdKEdDEdEdVEdZEdHEdTHEdIdKAdELdEMdENdESHdOdPEdSHEdKUdERdESdTEdUdEKSdPHEdKHE",
    "dEFdERSdCHEdIIdUUdESScNUMERAL ONEdFIVEdTENdFIFTY"]⟩,
  ⟨0x1032d,
   ["aOLD ITALIC mYEdNORTHERN TSEdSOUTHERN TSEaGOTHIC mAHSAcBAIRKANcGIBAcDAGScAIHVUScQAIRTHRA",
    "cIUJAcHAGLcTHIUTHcEIScKUSMAcLAGUScMANNAcNAUTHScJERcURUScPAIRTHRAcNINETYcRAIDAcSAUILcTEIWS",
    "cWINJAcFAIHUcIGGWScHWAIRcOTHALcNINE HUNDRED"]⟩,
  ⟨0x10350,
   ["aOLD PERMIC mANdBURdGAIdDOIdEdZHOIdDZHOIdZATAdDZITAdIdKOKEdLEIdMENOEdNENOEdVOOIdPEEIdREI",
    "dSIIdTAIdUdCHERYdSHOOIdSHCHOOIdYRYdYERUdOdOOdEFdHAdTSIUdVERdYERdYERIdYATdIEdYUdYAdIA",
    "aCOMBINING OLD PERMIC mANeDOIeZATAeNENOEeSII"]⟩,
  ⟨0x10380,
   ["aUGARITIC mALPAcBETAcGAMLAcKHAcDELTAcHOcWOcZETAcHOTAcTETcYODcKAFcSHINcLAMDAcMEMcDHALcNUNcZU",
    "cSAMKAcAINcPUcSADEcQOPAcRASHAcTHANNAcGHAINcTOcIcUcSSU"]⟩,
  ⟨0x1039f,
   ["aUGARITIC WORD DIVIDERaOLD PERSIAN yAdIdUdKAdKUdGAdGUdXAdCAdJAdJIdTAdTUdDAdDIdDUdTHAdPAdBA",
    "dFAdNAdNUdMAdMIdMUdYAdVAdVIdRAdRUdLAdSAdZAdSHAdSSAdHA"]⟩,
  ⟨0x103c8,
   ["aOLD PERSIAN yAURAMAZDAAdAURAMAZDAA-2dAURAMAZDAAHAdXSHAAYATHIYAdDAHYAAUSHdDAHYAAUSH-2dBAGA",
    "dBUUMISHcWORD DIVIDERcNUMBER ONEdTWOdTENdTWENTYdHUNDRED"]⟩,
  ⟨0x10400,
   ["aDESERET omLONG IeEeAeAHeOeOOdSHORT IeEeAeAHeOeOOdAYdOWdWUdYEEdHdPEEdBEEdTEEdDEEdCHEEdJEE",
    "dKAYdGAYdEFdVEEdETHdTHEEdESdZEEdESHdZHEEdERdELdEMdENdENGdOIdEWbpmLONG IeEeAeAHeOeOOdSHORT I",
    "eEeAeAHeOeOOdAYdOWdWUdYEEdHdPEEdBEEdTEEdDEEdCHEEdJEEdKAYdGAYdEFdVEEdETHdTHEEdESdZEEdESH",
    "dZHEEdERdELdEMdENdENGdOIdEWaSHAVIAN mPEEPcTOTcKICKcFEEcTHIGHcSOcSUREcCHURCHcYEAcHUNGcBIB",
    "cDEADcGAGcVOWcTHEYcZOOcMEASUREcJUDGEcWOEcHA-HAcLOLLcMIMEcIFcEGGcASHcADOcONcWOOLcOUTcAHcROAR",
    "cNUNcEATcAGEcICEcUPcOAKcOOZEcOILcAWEcAREcORcAIRcERRcARRAYcEARcIANcYEWaOSMANYA mALEFcBAcTA",
    "cJAcXAcKHAcDEELcRAcSAcSHIINcDHAcCAYNcGAcFAcQAAFcKAAFcLAANcMIINcNUUNcWAWcHAcYAcAcEcIcOcUcAA",
    "cEEcOO"]⟩,
  ⟨0x104a0, ["aOSMANYA DIGIT ZEROcONEcTWOcTHREEcFOURcFIVEcSIXcSEVENcEIGHTcNINE"]⟩,
  ⟨0x104b0,
   ["aOSAGE omAdAIdAINdAHdBRAdCHAdEHCHAdEdEINdHAdHYAdIdKAdEHKAdKYAdLAdMAdNAdOdOINdPAdEHPAdSAdSHA",
    "dTAdEHTAdTSAdEHTSAdTSHAdDHAdUdWAdKHAdGHAdZAdZHA"]⟩,
  ⟨0x104d8,
   ["aOSAGE pmAdAIdAINdAHdBRAdCHAdEHCHAdEdEINdHAdHYAdIdKAdEHKAdKYAdLAdMAdNAdOdOINdPAdEHPAdSAdSHA",
    "dTAdEHTAdTSAdEHTSAdTSHAdDHAdUdWAdKHAdGHAdZAdZHA"]⟩,
  ⟨0x10500,
   ["aELBASAN mAcBEcCEcCHEcDEcNDEcDHEcEIcEcFEcGEcGJEcHEcIcJEcKEcLEcLLEcMEcNEcNAcNJEcOcPEcQEcRE",
    "cRREcSEcSHEcTEcTHEcUcVEcXEcYcZEcZHEcGHEcGHAMMAcKHE"]⟩,
  ⟨0x10530,
   ["aCAUCASIAN ALBANIAN mALTdBETdGIMdDATdEBdZARLdEYNdZHILdTASdCHAdYOWDdZHAdIRBdSHAdLANdINYA",
    "dXEYNdDYANdCARdJHOXdKARdLYITdHEYTdQAYdAORdCHOYdCHIdCYAYdMAQdQARdNOWCdDZYAYdSHAKdJAYNdON",
    "dTYAYdFAMdDZAYdCHATdPENdGHEYSdRATdSEYKdVEYZdTIWRdSHOYdIWNdCYAWdCAYNdYAYDdPIWRdKIW"]⟩,
  ⟨0x1056f, ["aCAUCASIAN ALBANIAN CITATION MARKaVITHKUQI omAdBBEdBEdCEdCHEdDEdDHEdEIdEdFEdGA"]⟩,
  ⟨0x1057c, ["aVITHKUQI omHAdHHAdIdIJEdJEdKAdLAdLLAdMEdNEdNJEdOdPEdQAdRE"]⟩,
  ⟨0x1058c, ["aVITHKUQI omSEdSHEdTEdTHEdUdVEdXE"]⟩, ⟨0x10594, ["aVITHKUQI omYdZE"]⟩,
  ⟨0x10597, ["aVITHKUQI pmAdBBEdBEdCEdCHEdDEdDHEdEIdEdFEdGA"]⟩,
  ⟨0x105a3, ["aVITHKUQI pmHAdHHAdIdIJEdJEdKAdLAdLLAdMEdNEdNJEdOdPEdQAdRE"]⟩,
  ⟨0x105b3, ["aVITHKUQI pmSEdSHEdTEdTHEdUdVEdXE"]⟩, ⟨0x105bb, ["aVITHKUQI pmYdZE"]⟩,
  ⟨0x10600,
   ["aLINEAR A yAB001dAB002dAB003dAB004dAB005dAB006dAB007dAB008dAB009dAB010dAB011dAB013dAB016",
    "dAB017dAB020dAB021dAB021FdAB021MdAB022dAB022FdAB022MdAB023dAB023MdAB024dAB026dAB027dAB028",
    "dA028BdAB029dAB030dAB031dAB034dAB037dAB038dAB039dAB040dAB041dAB044dAB045dAB046dAB047dAB048",
    "dAB049dAB050dAB051dAB053dAB054dAB055dAB056dAB057dAB058dAB059dAB060dAB061dAB065dAB066dAB067",
    "dAB069dAB070dAB073dAB074dAB076dAB077dAB078dAB079dAB080dAB081dAB082dAB085dAB086dAB087",
    "dA100-102dAB118dAB120dA120BdAB122dAB123dAB131AdAB131BdA131CdAB164dAB171dAB180dAB188dAB191",
    "dA301dA302dA303dA304dA305dA306dA307dA308dA309AdA309BdA309CdA310dA311dA312dA313AdA313BdA313C",
    "dA314dA315dA316dA317dA318dA319dA320dA321dA322dA323dA324dA325dA326dA327dA328dA329dA330dA331",
    "dA332dA333dA334dA335dA336dA337dA338dA339dA340dA341dA342dA343dA344dA345dA346dA347dA348dA349",
    "dA350dA351dA352dA353dA354dA355dA356dA357dA358dA359dA360dA361dA362dA363dA364dA365dA366dA367",
    "dA368dA369dA370dA371dA400-VASdA401-VASdA402-VASdA403-VASdA404-VASdA405-VASdA406-VAS",
    "dA407-VASdA408-VASdA409-VASdA410-VASdA411-VASdA412-VASdA413-VASdA414-VASdA415-VASdA416-VAS",
    "dA417-VASdA418-VASdA501dA502dA503dA504dA505dA506dA508dA509dA510dA511dA512dA513dA515dA516",
    "dA520dA521dA523dA524dA525dA526dA527dA528dA529dA530dA531dA532dA534dA535dA536dA537dA538dA539",
    "dA540dA541dA542dA545dA547dA548dA549dA550dA551dA552dA553dA554dA555dA556dA557dA559dA563dA564",
    "dA565dA566dA568dA569dA570dA571dA572dA573dA574dA575dA576dA577dA578dA579dA580dA581dA582dA583",
    "dA584dA585dA586dA587dA588dA589dA591dA592dA594dA595dA596dA598dA600dA601dA602dA603dA604dA606",
    "dA608dA609dA610dA611dA612dA613dA614dA615dA616dA617dA618dA619dA620dA621dA622dA623dA624dA626",
    "dA627dA628dA629dA634dA637dA638dA640dA642dA643dA644dA645dA646dA648dA649dA651dA652dA653dA654",
    "dA655dA656dA657dA658dA659dA660dA661dA662dA663dA664"]⟩,
  ⟨0x10740,
   ["aLINEAR A yA701 AdA702 BdA703 DdA704 EdA705 FdA706 HdA707 JdA708 KdA709 LdA709-2 L2e3 L3",
    "e4 L4e6 L6dA710 WdA711 XdA712 YdA713 OMEGAdA714 ABBdA715 BBdA717 DDdA726 EYYYdA732 JE"]⟩,
  ⟨0x10760, ["aLINEAR A yA800dA801dA802dA803dA804dA805dA806dA807"]⟩,
  ⟨0x10780, ["aMODIFIER mpoAAcSUPERSCRIPT TRIANGULAR COLONdHALF TRIANGULAR COLONcpAEdoBdB nHOOK"]⟩,
  ⟨0x10787,
   ["aMODIFIER mpDZ DIGRAPHeDIGRAPH nRETROFLEX HOOKgCURLdDEZH DIGRAPHdD nTAILfHOOKfHOOK tTAIL",
    "dREVERSED EdCLOSED REVERSED OPEN EdFENG DIGRAPHdRAMS HORNdoGdG nHOOKdoG nHOOKdH nSTROKEdoH",
    "dHENG nHOOKdDOTLESS J nSTROKE tHOOKdLS DIGRAPHdLZ DIGRAPHdL nBELTdoL nBELT",
    "dL nRETROFLEX HOOK tBELTdLEZHdLEZH nRETROFLEX HOOKdTURNED YeY nBELTdO nSTROKEdoOE",
    "dCLOSED OMEGAdQdTURNED R nLONG LEGhLEG tRETROFLEX HOOKdR nTAILfFISHHOOKdoRdTC DIGRAPH nCURL",
    "dTS DIGRAPHeDIGRAPH nRETROFLEX HOOKdTESH DIGRAPHdT nRETROFLEX HOOKdV nuHOOK"]⟩,
  ⟨0x107b2,
   ["aMODIFIER mpoYcGLOTTAL STOP nSTROKEcREVERSED GLOTTAL STOP nSTROKEcBILABIAL CLICK",
    "cDENTAL CLICKcLATERAL CLICKcALVEOLAR CLICKcRETROFLEX CLICK nRETROFLEX HOOKcpS nCURL"]⟩,
  ⟨0x10800, ["aCYPRIOT SYLLABLE AcEcIcOcUcJA"]⟩, ⟨0x10808, ["aCYPRIOT SYLLABLE JO"]⟩,
  ⟨0x1080a,
   ["aCYPRIOT SYLLABLE KAcKEcKIcKOcKUcLAcLEcLIcLOcLUcMAcMEcMIcMOcMUcNAcNEcNIcNOcNUcPAcPEcPIcPO",
    "cPUcRAcREcRIcROcRUcSAcSEcSIcSOcSUcTAcTEcTIcTOcTUcWAcWEcWIcWO"]⟩,
  ⟨0x10837, ["aCYPRIOT SYLLABLE XAcXE"]⟩, ⟨0x1083c, ["aCYPRIOT SYLLABLE ZA"]⟩,
  ⟨0x1083f,
   ["aCYPRIOT SYLLABLE ZOaIMPERIAL ARAMAIC mALEPHdBETHdGIMELdDALETHdHEdWAWdZAYINdHETHdTETHdYODH",
    "dKAPHdLAMEDHdMEMdNUNdSAMEKHdAYINdPEdSADHEdQOPHdRESHdSHINdTAW"]⟩,
  ⟨0x10857,
   ["aIMPERIAL ARAMAIC SECTION SIGNcNUMBER ONEdTWOdTHREEdTENdTWENTYdONE HUNDREDeTHOUSAND",
    "dTEN THOUSANDaPALMYRENE mALEPHcBETHcGIMELcDALETHcHEcWAWcZAYINcHETHcTETHcYODHcKAPHcLAMEDH",
    "cMEMcFINAL NUNcNUNcSAMEKHcAYINcPEcSADHEcQOPHcRESHcSHINcTAWbLEFT-POINTING FLEURON",
    "bRIGHT-POINTING FLEURONbNUMBER ONEcTWOcTHREEcFOURcFIVEcTENcTWENTYaNABATAEAN mFINAL ALEPH",
    "cALEPHcFINAL BETHcBETHcGIMELcDALETHcFINAL HEcHEcWAWcZAYINcHETHcTETHcFINAL YODHcYODH",
    "cFINAL KAPHcKAPHcFINAL LAMEDHcLAMEDHcFINAL MEMcMEMcFINAL NUNcNUNcSAMEKHcAYINcPEcSADHEcQOPH",
    "cRESHcFINAL SHINcSHINcTAW"]⟩,
  ⟨0x108a7,
   ["aNABATAEAN NUMBER ONEcTWOcTHREEcFOURbCRUCIFORM NUMBER FOURbNUMBER FIVEcTENcTWENTY",
    "cONE HUNDRED"]⟩,
  ⟨0x108e0,
   ["aHATRAN mALEPHcBETHcGIMELcDALETH-RESHcHEcWAWcZAYNcHETHcTETHcYODHcKAPHcLAMEDHcMEMcNUNcSAMEKH",
    "cAYNcPEcSADHEcQOPH"]⟩,
  ⟨0x108f4, ["aHATRAN mSHINcTAW"]⟩,
  ⟨0x108fb,
   ["aHATRAN NUMBER ONEcFIVEcTENcTWENTYcONE HUNDREDaPHOENICIAN mALFcBETcGAMLcDELTcHEcWAUcZAIcHET",
    "cTETcYODcKAFcLAMDcMEMcNUNcSEMKcAINcPEcSADEcQOFcROSHcSHINcTAUbNUMBER ONEcTENcTWENTY",
    "cONE HUNDREDcTWOcTHREE"]⟩,
  ⟨0x1091f,
   ["aPHOENICIAN WORD SEPARATORaLYDIAN mAcBcGcDcEcVcIcYcKcLcMcNcOcRcSScTcUcFcQcScTTcANcENcLYcNN",
    "cC"]⟩,
  ⟨0x1093f, ["aLYDIAN TRIANGULAR MARK"]⟩,
  ⟨0x10980,
   ["aMEROITIC HIEROGLYPHIC mAdEdIdOdYAdWAdBAdBA-2dPAdMAdNAdNA-2dNEdNE-2dRAdRA-2dLAdKHAdHHAdSA",
    "dSA-2dSEdKAdQAdTAdTA-2dTEdTE-2dTOdDAcSYMBOL VIDJdVIDJ-2bCURSIVE mAdEdIdOdYAdWAdBAdPAdMAdNA",
    "dNEdRAdLAdKHAdHHAdSAdARCHAIC SAdSEdKAdQAdTAdTEdTOdDA"]⟩,
  ⟨0x109bc,
   ["aMEROITIC CURSIVE FRACTION ELEVEN TWELFTHSdONE HALFcLOGOGRAM RMTdIMNcNUMBER ONEdTWOdTHREE",
    "dFOURdFIVEdSIXdSEVENdEIGHTdNINEdTENdTWENTYdTHIRTYdFORTYdFIFTYdSIXTYdSEVENTY"]⟩,
  ⟨0x109d2,
   ["aMEROITIC CURSIVE NUMBER ONE HUNDREDdTWO HUNDREDdTHREE HUNDREDdFOUR HUNDREDdFIVE HUNDRED",
    "dSIX HUNDREDdSEVEN HUNDREDdEIGHT HUNDREDdNINE HUNDREDdONE THOUSANDdTWO THOUSAND",
    "dTHREE THOUSANDdFOUR THOUSANDdFIVE THOUSANDdSIX THOUSANDdSEVEN THOUSANDdEIGHT THOUSAND",
    "dNINE THOUSANDdTEN THOUSANDdTWENTY THOUSANDdTHIRTY THOUSANDdFORTY THOUSANDdFIFTY THOUSAND",
    "dSIXTY THOUSANDdSEVENTY THOUSANDdEIGHTY THOUSANDdNINETY THOUSANDdONE HUNDRED THOUSAND",
    "dTWO HUNDRED THOUSANDdTHREE HUNDRED THOUSANDdFOUR HUNDRED THOUSANDdFIVE HUNDRED THOUSAND",
    "dSIX HUNDRED THOUSANDdSEVEN HUNDRED THOUSANDdEIGHT HUNDRED THOUSANDdNINE HUNDRED THOUSAND",
    "cFRACTION ONE TWELFTHdTWO TWELFTHSdTHREE TWELFTHSdFOUR TWELFTHSdFIVE TWELFTHSdSIX TWELFTHS",
    "dSEVEN TWELFTHSdEIGHT TWELFTHSdNINE TWELFTHSdTEN TWELFTHSaKHAROSHTHI mAbVOWEL yIdU",
    "dVOCALIC R"]⟩,
  ⟨0x10a05, ["aKHAROSHTHI VOWEL yEdO"]⟩,
  ⟨0x10a0c, ["aKHAROSHTHI VOWEL LENGTH MARKbywRING BELOWcANUSVARAcVISARGAbmKAcKHAcGAcGHA"]⟩,
  ⟨0x10a15, ["aKHAROSHTHI mCAcCHAcJA"]⟩,
  ⟨0x10a19,
   ["aKHAROSHTHI mNYAcTTAcTTHAcDDAcDDHAcNNAcTAcTHAcDAcDHAcNAcPAcPHAcBAcBHAcMAcYAcRAcLAcVAcSHA",
    "cSSAcSAcZAcHAcKKAcTTTHAcTTTAcVHA"]⟩,
  ⟨0x10a38, ["aKHAROSHTHI yBAR ABOVEcCAUDAcDOT BELOW"]⟩,
  ⟨0x10a3f,
   ["aKHAROSHTHI VIRAMAbDIGIT ONEcTWOcTHREEcFOURbNUMBER TENcTWENTYcONE HUNDREDdTHOUSAND",
    "bFRACTION ONE HALF"]⟩,
  ⟨0x10a50,
   ["aKHAROSHTHI PUNCTUATION DOTcpCIRCLEcCIRCLEcCRESCENT BARcMANGALAMcLOTUScDANDAcwDANDAcLINES"]⟩,
  ⟨0x10a60,
   ["aOLD SOUTH ARABIAN mHEeLAMEDHeHETHeMEMeQOPHeWAWeSHINeRESHeBETHeTAWeSATeKAPHeNUNeKHETHeSADHE",
    "eSAMEKHeFEeALEFeAYNeDHADHEeGIMELeDALETHeGHAYNeTETHeZAYNeDHALETHeYODHeTHAWeTHETHdNUMBER ONE",
    "eFIFTYdNUMERIC INDICATORbNORTH ARABIAN mHEHeLAMeHAHeMEEMeQAFeWAWeES-2eREHeBEHeTEHeES-1eKAF",
    "eNOONeKHAHeSADeES-3eFEHeALEFeAINeDADeGEEMeDALeGHAINeTAHeZAINeTHALeYEHeTHEHeZAHdNUMBER ONE",
    "eTENeTWENTY"]⟩,
  ⟨0x10ac0,
   ["aMANICHAEAN mALEPHcBETHcBHETHcGIMELcGHIMELcDALETHcHEcWAWbyUDbmZAYINcZHAYINcJAYINcJHAYIN",
    "cHETHcTETHcYODHcKAPHcXAPHcKHAPHcLAMEDHcDHAMEDHcTHAMEDHcMEMcNUNcSAMEKHcAYINcAAYINcPEcFE",
    "cSADHEcQOPHcXOPHcQHOPHcRESHcSHINcSSHINcTAWbABBREVIATION MARK ABOVEdBELOW"]⟩,
  ⟨0x10aeb,
   ["aMANICHAEAN NUMBER ONEcFIVEcTENcTWENTYcONE HUNDREDbPUNCTUATION STARcFLEURONcwDOT WITHIN DOT",
    "cDOT WITHIN DOTcDOTcTWO DOTScLINE FILLER"]⟩,
  ⟨0x10b00,
   ["aAVESTAN mAcAAcAOcAAOcANcAANcAEcAEEcEcEEcOcOOcIcIIcUcUUcKEcXEcXYEcXVEcGEcGGEcGHEcCEcJEcTE",
    "cTHEcDEcDHEcTTEcPEcFEcBEcBHEcNGEcNGYEcNGVEcNEcNYEcNNEcMEcHMEcYYEcYEcVEcREcLEcSEcZEcSHEcZHE",
    "cSHYEcSSHEcHE"]⟩,
  ⟨0x10b39,
   ["aAVESTAN ABBREVIATION MARKaTINY TWO DOTS OVER ONE DOT PUNCTUATION",
    "apTWO DOTS OVER ONE DOT PUNCTUATIONaLARGE TWO DOTS OVER ONE DOT PUNCTUATION",
    "bONE DOT OVER TWO DOTS PUNCTUATIONbTWO RINGS OVER ONE RING PUNCTUATION",
    "bONE RING OVER TWO RINGS PUNCTUATIONaINSCRIPTIONAL PARTHIAN mALEPHdBETHdGIMELdDALETHdHEdWAW",
    "dZAYINdHETHdTETHdYODHdKAPHdLAMEDHdMEMdNUNdSAMEKHdAYINdPEdSADHEdQOPHdRESHdSHINdTAW"]⟩,
  ⟨0x10b58,
   ["aINSCRIPTIONAL PARTHIAN NUMBER ONEdTWOdTHREEdFOURdTENdTWENTYdONE HUNDREDeTHOUSAND",
    "bPAHLAVI mALEPHdBETHdGIMELdDALETHdHEdWAW-AYIN-RESHdZAYINdHETHdTETHdYODHdKAPHdLAMEDH",
    "dMEM-QOPHdNUNdSAMEKHdPEdSADHEdSHINdTAW"]⟩,
  ⟨0x10b78,
   ["aINSCRIPTIONAL PAHLAVI NUMBER ONEdTWOdTHREEdFOURdTENdTWENTYdONE HUNDREDeTHOUSAND",
    "aPSALTER PAHLAVI mALEPHdBETHdGIMELdDALETHdHEdWAW-AYIN-RESHdZAYINdHETHdYODHdKAPHdLAMEDH",
    "dMEM-QOPHdNUNdSAMEKHdPEdSADHEdSHINdTAW"]⟩,
  ⟨0x10b99, ["aPSALTER PAHLAVI SECTION MARKcTURNED SECTION MARKcFOUR DOTS nCROSSfDOT"]⟩,
  ⟨0x10ba9, ["aPSALTER PAHLAVI NUMBER ONEdTWOdTHREEdFOURdTENdTWENTYdONE HUNDRED"]⟩,
  ⟨0x10c00,
   ["aOLD TURKIC mORKHON AdYENISEI AeAEdORKHON IdYENISEI IeEdORKHON OeOEdYENISEI OEdORKHON AB",
    "dYENISEI ABdORKHON AEBdYENISEI AEBdORKHON AGdYENISEI AGdORKHON AEGdYENISEI AEGdORKHON AD",
    "dYENISEI ADdORKHON AEDeEZdYENISEI EZdORKHON AYdYENISEI AYdORKHON AEYdYENISEI AEYdORKHON AEK",
    "dYENISEI AEKdORKHON OEKdYENISEI OEKdORKHON ALdYENISEI ALdORKHON AELeELTeEMeANeAEN",
    "dYENISEI AENdORKHON ENTdYENISEI ENTdORKHON ENCdYENISEI ENCdORKHON ENYdYENISEI ENYeANG",
    "dORKHON ENGdYENISEI AENGdORKHON EPeOPeICeECdYENISEI ECdORKHON AQdYENISEI AQdORKHON IQ",
    "dYENISEI IQdORKHON OQdYENISEI OQdORKHON ARdYENISEI ARdORKHON AEReASeAESeASHdYENISEI ASH",
    "dORKHON ESHdYENISEI ESHdORKHON ATdYENISEI ATdORKHON AETdYENISEI AETdORKHON OTeBASH"]⟩,
  ⟨0x10c80,
   ["aOLD HUNGARIAN omAeAAeEBeAMBeECeENCeECSeEDeANDeEeCLOSE EeEEeEFeEGeEGYeEHeIeIIeEJeEKeAKeUNK",
    "eELeELYeEMeENeENYeOeOOeNIKOLSBURG OEeRUDIMENTA OEeOEEeEPeEMPeEReSHORT EReESeESZeETeENTeETY",
    "eECHeUeUUeNIKOLSBURG UEeRUDIMENTA UEeEVeEZeEZSeENT-SHAPED SIGNeUS"]⟩,
  ⟨0x10cc0,
   ["aOLD HUNGARIAN pmAeAAeEBeAMBeECeENCeECSeEDeANDeEeCLOSE EeEEeEFeEGeEGYeEHeIeIIeEJeEKeAKeUNK",
    "eELeELYeEMeENeENYeOeOOeNIKOLSBURG OEeRUDIMENTA OEeOEEeEPeEMPeEReSHORT EReESeESZeETeENTeETY",
    "eECHeUeUUeNIKOLSBURG UEeRUDIMENTA UEeEVeEZeEZSeENT-SHAPED SIGNeUS"]⟩,
  ⟨0x10cfa,
   ["aOLD HUNGARIAN NUMBER ONEdFIVEdTENdFIFTYdONE HUNDREDeTHOUSANDaHANIFI ROHINGYA mAdBAdPAdTA",
    "dTTAdJAdCAdHAdKHAdFAdDAdDDAdRAdRRAdZAdSAdSHAdKAdGAdLAdMAdNAdWAdKINNA WAdYAdKINNA YAdNGAdNYA",
    "dVAcVOWEL AdIdUdEdOcMARK SAKINdNA KHONNAcyHARBAHAYdTAHALAdTANAdTASSI"]⟩,
  ⟨0x10d30, ["aHANIFI ROHINGYA DIGIT ZEROdONEdTWOdTHREEdFOURdFIVEdSIXdSEVENdEIGHTdNINE"]⟩,
  ⟨0x10e60,
   ["aRUMI DIGIT ONEcTWOcTHREEcFOURcFIVEcSIXcSEVENcEIGHTcNINEbNUMBER TENcTWENTYcTHIRTYcFORTY",
    "cFIFTYcSIXTYcSEVENTYcEIGHTYcNINETYcONE HUNDREDcTWO HUNDREDcTHREE HUNDREDcFOUR HUNDRED",
    "cFIVE HUNDREDcSIX HUNDREDcSEVEN HUNDREDcEIGHT HUNDREDcNINE HUNDREDbFRACTION ONE HALF",
    "dQUARTERdTHIRDcTWO THIRDS"]⟩,
  ⟨0x10e80,
   ["aYEZIDI mELIFcBEcPEcPHEcTHEcSEcCIMcCHIMcCHHIMcHHAcXAcDALcZALcRAcRHAcZAcJAcSINcSHINcSADcDAD",
    "cTAcZEcEYNcXHEYNcFAcVAcVA ALTERNATE FORMcQAFcKAFcKHAFcGAFcLAMcMIMcNUNcUMcWAWcOWcEWcHAYcYOT",
    "cET"]⟩,
  ⟨0x10eab, ["aYEZIDI COMBINING HAMZA MARKcMADDA MARKbHYPHENATION MARK"]⟩,
  ⟨0x10eb0, ["aYEZIDI mLAM nDOT ABOVEcYOT nCIRCUMFLEX ABOVE"]⟩,
  ⟨0x10f00,
   ["aOLD SOGDIAN mALEPHdFINAL ALEPHdBETHdFINAL BETHdGIMELdHEdFINAL HEdWAWdZAYINdHETHdYODHdKAPH",
    "dLAMEDHdMEMdNUNdFINAL NUNeNUN nVERTICAL TAILdSAMEKHdAYINdALTERNATE AYINdPEdSADHE",
    "dFINAL SADHEeSADHE nVERTICAL TAILdRESH-AYIN-DALETHdSHINdTAWdFINAL TAWeTAW nVERTICAL TAIL",
    "cNUMBER ONEdTWOdTHREEdFOURdFIVEdTENdTWENTYdTHIRTYdONE HUNDREDcFRACTION ONE HALF",
    "cLIGATURE AYIN-DALETH"]⟩,
  ⟨0x10f30,
   ["aSOGDIAN mALEPHcBETHcGIMELcHEcWAWcZAYINcHETHcYODHcKAPHcLAMEDHcMEMcNUNcSAMEKHcAYINcPEcSADHE",
    "cRESH-AYINcSHINcTAWcFETHcLESHbINDEPENDENT SHINbCOMBINING DOT BELOWcTWO DOTS BELOWcDOT ABOVE",
    "cTWO DOTS ABOVEcCURVE ABOVEdBELOWcHOOK ABOVEdBELOWcLONG HOOK BELOWcRESH BELOWcSTROKE BELOW",
    "bNUMBER ONEcTENcTWENTYcONE HUNDREDbPUNCTUATION TWO VERTICAL BARSeBARS nDOTScCIRCLE nDOT",
    "cTWO CIRCLES nDOTScHALF CIRCLE nDOT"]⟩,
  ⟨0x10f70,
   ["aOLD UYGHUR mALEPHdBETHdGIMEL-HETHdWAWdZAYINdFINAL HETHdYODHdKAPHdLAMEDHdMEMdNUNdSAMEKHdPE",
    "dSADHEdRESHdSHINdTAWdLESHcCOMBINING DOT ABOVEeBELOWdTWO DOTS ABOVEfBELOWcPUNCTUATION BAR",
    "dTWO BARSeDOTSdFOUR DOTS"]⟩,
  ⟨0x10fb0,
   ["aCHORASMIAN mALEPHcpALEPHcBETHcGIMELcDALETHcHEcWAWcCURLED WAWcZAYINcHETHcYODHcKAPHcLAMEDH",
    "cMEMcNUNcSAMEKHcAYINcPEcRESHcSHINcTAWbNUMBER ONEcTWOcTHREEcFOURcTENcTWENTYcONE HUNDRED"]⟩,
  ⟨0x10fe0,
   ["aELYMAIC mALEPHcBETHcGIMELcDALETHcHEcWAWcZAYINcHETHcTETHcYODHcKAPHcLAMEDHcMEMcNUNcSAMEKH",
    "cAYINcPEcSADHEcQOPHcRESHcSHINcTAWbLIGATURE ZAYIN-YODH"]⟩,
  ⟨0x11000,
   ["aBRAHMI yCANDRABINDUcANUSVARAcVISARGAcJIHVAMULIYAcUPADHMANIYAbmAcAAcIcIIcUcUUcVOCALIC RdRR",
    "dLdLLcEcAIcOcAUcKAcKHAcGAcGHAcNGAcCAcCHAcJAcJHAcNYAcTTAcTTHAcDDAcDDHAcNNAcTAcTHAcDAcDHAcNA",
    "cPAcPHAcBAcBHAcMAcYAcRAcLAcVAcSHAcSSAcSAcHAcLLAcOLD TAMIL LLLAeRRAeNNNAbVOWEL yAA",
    "dBHATTIPROLU AAdIdIIdUdUUdVOCALIC ReRReLeLLdEdAIdOdAUbVIRAMAbDANDAbwDANDAbPUNCTUATION DOT",
    "cwDOTcLINEcCRESCENT BARcLOTUS"]⟩,
  ⟨0x11052,
   ["aBRAHMI NUMBER ONEcTWOcTHREEcFOURcFIVEcSIXcSEVENcEIGHTcNINEcTENcTWENTYcTHIRTYcFORTYcFIFTY",
    "cSIXTYcSEVENTYcEIGHTYcNINETYcONE HUNDREDdTHOUSANDbDIGIT ZEROcONEcTWOcTHREEcFOURcFIVEcSIX",
    "cSEVENcEIGHTcNINEbyOLD TAMIL VIRAMAbmOLD TAMIL SHORT EfObVOWEL yOLD TAMIL SHORT EgO",
    "bmOLD TAMIL LLA"]⟩,
  ⟨0x1107f,
   ["aBRAHMI NUMBER JOINERaKAITHI yCANDRABINDUcANUSVARAcVISARGAbmAcAAcIcIIcUcUUcEcAIcOcAUcKAcKHA",
    "cGAcGHAcNGAcCAcCHAcJAcJHAcNYAcTTAcTTHAcDDAcDDDHAcDDHAcRHAcNNAcTAcTHAcDAcDHAcNAcPAcPHAcBA",
    "cBHAcMAcYAcRAcLAcVAcSHAcSSAcSAcHAbVOWEL yAAdIdIIdUdUUdEdAIdOdAUbyVIRAMAcNUKTA",
    "bABBREVIATION SIGNbENUMERATION SIGNbNUMBER SIGNbSECTION MARKbwSECTION MARKbDANDAbwDANDA",
    "bVOWEL yVOCALIC R"]⟩,
  ⟨0x110cd, ["aKAITHI NUMBER yABOVE"]⟩,
  ⟨0x110d0,
   ["aSORA SOMPENG mSAHdTAHdBAHdCAHdDAHdGAHdMAHdNGAHdLAHdNAHdVAHdPAHdYAHdRAHdHAHdKAHdJAHdNYAHdAH",
    "dEEHdIHdUHdOHdEHdMAE"]⟩,
  ⟨0x110f0, ["aSORA SOMPENG DIGIT ZEROdONEdTWOdTHREEdFOURdFIVEdSIXdSEVENdEIGHTdNINE"]⟩,
  ⟨0x11100,
   ["aCHAKMA yCANDRABINDUcANUSVARAcVISARGAbmAAcIcUcEcKAAcKHAAcGAAcGHAAcNGAAcCAAcCHAAcJAAcJHAA",
    "cNYAAcTTAAcTTHAAcDDAAcDDHAAcNNAAcTAAcTHAAcDAAcDHAAcNAAcPAAcPHAAcBAAcBHAAcMAAcYYAAcYAAcRAA",
    "cLAAcWAAcSAAcHAAbVOWEL yAdIdIIdUdUUdEdAIdOdAUdOIbO MARKbAU MARKbVIRAMAbMAAYYAA"]⟩,
  ⟨0x11136,
   ["aCHAKMA DIGIT ZEROcONEcTWOcTHREEcFOURcFIVEcSIXcSEVENcEIGHTcNINEbSECTION MARKbDANDAbwDANDA",
    "bQUESTION MARKbmLHAAbVOWEL yAAdEIbmVAA"]⟩,
  ⟨0x11150,
   ["aMAHAJANI mAcIcUcEcOcKAcKHAcGAcGHAcCAcCHAcJAcJHAcNYAcTTAcTTHAcDDAcDDHAcNNAcTAcTHAcDAcDHAcNA",
    "cPAcPHAcBAcBHAcMAcRAcLAcVAcSAcHAcRRAbyNUKTAbABBREVIATION SIGNbSECTION MARKbLIGATURE SHRI"]⟩,
  ⟨0x11180,
   ["aSHARADA yCANDRABINDUcANUSVARAcVISARGAbmAcAAcIcIIcUcUUcVOCALIC RdRRdLdLLcEcAIcOcAUcKAcKHA",
    "cGAcGHAcNGAcCAcCHAcJAcJHAcNYAcTTAcTTHAcDDAcDDHAcNNAcTAcTHAcDAcDHAcNAcPAcPHAcBAcBHAcMAcYAcRA",
    "cLAcLLAcVAcSHAcSSAcSAcHAbVOWEL yAAdIdIIdUdUUdVOCALIC ReRReLeLLdEdAIdOdAUbyVIRAMAcAVAGRAHA",
    "cJIHVAMULIYAcUPADHMANIYAbOMbDANDAbwDANDAbABBREVIATION SIGNbSEPARATORbSANDHI MARKbyNUKTA",
    "bVOWEL MODIFIER MARKbEXTRA SHORT VOWEL MARKbSUTRA MARKbVOWEL yPRISHTHAMATRA E",
    "byINVERTED CANDRABINDUbDIGIT ZEROcONEcTWOcTHREEcFOURcFIVEcSIXcSEVENcEIGHTcNINEbEKAM",
    "bySIDDHAMbHEADSTROKEbCONTINUATION SIGNbSECTION MARK-1d2"]⟩,
  ⟨0x111e1,
   ["aSINHALA ARCHAIC DIGIT ONEdTWOdTHREEdFOURdFIVEdSIXdSEVENdEIGHTdNINEcNUMBER TENdTWENTY",
    "dTHIRTYdFORTYdFIFTYdSIXTYdSEVENTYdEIGHTYdNINETYdONE HUNDREDeTHOUSAND"]⟩,
  ⟨0x11200, ["aKHOJKI mAcAAcIcUcEcAIcOcAUcKAcKHAcGAcGGAcGHAcNGAcCAcCHAcJAcJJA"]⟩,
  ⟨0x11213,
   ["aKHOJKI mNYAcTTAcTTHAcDDAcDDHAcNNAcTAcTHAcDAcDDDAcDHAcNAcPAcPHAcBAcBBAcBHAcMAcYAcRAcLAcVA",
    "cSAcHAcLLAbVOWEL yAAdIdIIdUdEdAIdOdAUbyANUSVARAcVIRAMAcNUKTAcSHADDAbDANDAbwDANDA",
    "bWORD SEPARATORbSECTION MARKbwSECTION MARKbABBREVIATION SIGNbySUKUN"]⟩,
  ⟨0x11280, ["aMULTANI mAcIcUcEcKAcKHAcGA"]⟩, ⟨0x11288, ["aMULTANI mGHA"]⟩,
  ⟨0x1128a, ["aMULTANI mCAcCHAcJAcJJA"]⟩,
  ⟨0x1128f, ["aMULTANI mNYAcTTAcTTHAcDDAcDDDAcDDHAcNNAcTAcTHAcDAcDHAcNAcPAcPHAcBA"]⟩,
  ⟨0x1129f, ["aMULTANI mBHAcMAcYAcRAcLAcVAcSAcHAcRRAcRHAbSECTION MARK"]⟩,
  ⟨0x112b0,
   ["aKHUDAWADI mAcAAcIcIIcUcUUcEcAIcOcAUcKAcKHAcGAcGGAcGHAcNGAcCAcCHAcJAcJJAcJHAcNYAcTTAcTTHA",
    "cDDAcDDDAcRRAcDDHAcNNAcTAcTHAcDAcDHAcNAcPAcPHAcBAcBBAcBHAcMAcYAcRAcLAcVAcSHAcSAcHA",
    "byANUSVARAbVOWEL yAAdIdIIdUdUUdEdAIdOdAUbyNUKTAcVIRAMA"]⟩,
  ⟨0x112f0, ["aKHUDAWADI DIGIT ZEROcONEcTWOcTHREEcFOURcFIVEcSIXcSEVENcEIGHTcNINE"]⟩,
  ⟨0x11300, ["aGRANTHA yCOMBINING ANUSVARA ABOVEcCANDRABINDUcANUSVARAcVISARGA"]⟩,
  ⟨0x11305, ["aGRANTHA mAcAAcIcIIcUcUUcVOCALIC RdL"]⟩, ⟨0x1130f, ["aGRANTHA mEEcAI"]⟩,
  ⟨0x11313,
   ["aGRANTHA mOOcAUcKAcKHAcGAcGHAcNGAcCAcCHAcJAcJHAcNYAcTTAcTTHAcDDAcDDHAcNNAcTAcTHAcDAcDHAcNA"]⟩,
  ⟨0x1132a, ["aGRANTHA mPAcPHAcBAcBHAcMAcYAcRA"]⟩, ⟨0x11332, ["aGRANTHA mLAcLLA"]⟩,
  ⟨0x11335, ["aGRANTHA mVAcSHAcSSAcSAcHA"]⟩,
  ⟨0x1133b, ["aCOMBINING BINDU BELOWaGRANTHA yNUKTAcAVAGRAHAbVOWEL yAAdIdIIdUdUUdVOCALIC ReRR"]⟩,
  ⟨0x11347, ["aGRANTHA VOWEL yEEdAI"]⟩, ⟨0x1134b, ["aGRANTHA VOWEL yOOdAUbyVIRAMA"]⟩,
  ⟨0x11350, ["aGRANTHA OM"]⟩, ⟨0x11357, ["aGRANTHA AU LENGTH MARK"]⟩,
  ⟨0x1135d, ["aGRANTHA yPLUTAbmVEDIC ANUSVARAdwANUSVARAcVOCALIC RRdLLbVOWEL yVOCALIC LeLL"]⟩,
  ⟨0x11366, ["aCOMBINING GRANTHA DIGIT ZEROdONEdTWOdTHREEdFOURdFIVEdSIX"]⟩,
  ⟨0x11370, ["aCOMBINING GRANTHA mAdKAdNAdVIdPA"]⟩,
  ⟨0x11400,
   ["aNEWA mAcAAcIcIIcUcUUcVOCALIC RdRRdLdLLcEcAIcOcAUcKAcKHAcGAcGHAcNGAcNGHAcCAcCHAcJAcJHAcNYA",
    "cNYHAcTTAcTTHAcDDAcDDHAcNNAcTAcTHAcDAcDHAcNAcNHAcPAcPHAcBAcBHAcMAcMHAcYAcRAcRHAcLAcLHAcWA",
    "cSHAcSSAcSAcHAbVOWEL yAAdIdIIdUdUUdVOCALIC ReRReLeLLdEdAIdOdAUbyVIRAMAcCANDRABINDUcANUSVARA",
    "cVISARGAcNUKTAcAVAGRAHAcFINAL ANUSVARAbOMbSIDDHIbDANDAbwDANDAbCOMMAbGAP FILLER",
    "bABBREVIATION SIGNbDIGIT ZEROcONEcTWOcTHREEcFOURcFIVEcSIXcSEVENcEIGHTcNINEbwCOMMA",
    "bPLACEHOLDER MARK"]⟩,
  ⟨0x1145d, ["aNEWA INSERTION SIGNbSANDHI MARKbmVEDIC ANUSVARAbyJIHVAMULIYAcUPADHMANIYA"]⟩,
  ⟨0x11480,
   ["aTIRHUTA ANJIbmAcAAcIcIIcUcUUcVOCALIC RdRRdLdLLcEcAIcOcAUcKAcKHAcGAcGHAcNGAcCAcCHAcJAcJHA",
    "cNYAcTTAcTTHAcDDAcDDHAcNNAcTAcTHAcDAcDHAcNAcPAcPHAcBAcBHAcMAcYAcRAcLAcVAcSHAcSSAcSAcHA",
    "bVOWEL yAAdIdIIdUdUUdVOCALIC ReRReLeLLdEdSHORT EdAIdOdSHORT OdAUbyCANDRABINDUcANUSVARA",
    "cVISARGAcVIRAMAcNUKTAcAVAGRAHAbGVANGbABBREVIATION SIGNbOM"]⟩,
  ⟨0x114d0, ["aTIRHUTA DIGIT ZEROcONEcTWOcTHREEcFOURcFIVEcSIXcSEVENcEIGHTcNINE"]⟩,
  ⟨0x11580,
   ["aSIDDHAM mAcAAcIcIIcUcUUcVOCALIC RdRRdLdLLcEcAIcOcAUcKAcKHAcGAcGHAcNGAcCAcCHAcJAcJHAcNYA",
    "cTTAcTTHAcDDAcDDHAcNNAcTAcTHAcDAcDHAcNAcPAcPHAcBAcBHAcMAcYAcRAcLAcVAcSHAcSSAcSAcHA",
    "bVOWEL yAAdIdIIdUdUUdVOCALIC ReRR"]⟩,
  ⟨0x115b8,
   ["aSIDDHAM VOWEL yEdAIdOdAUbyCANDRABINDUcANUSVARAcVISARGAcVIRAMAcNUKTAcSIDDHAMbDANDAbwDANDA",
    "bSEPARATOR DOTcBARbREPETITION MARK-1d2d3bEND OF TEXT MARK",
    "bSECTION MARK nTRIDENT tU-SHAPED ORNAMENTSgDOTTED CRESCENTSeRAYS tDOTTED CRESCENTS",
    "hwCRESCENTShTRIPLE CRESCENTSdwRINGeRING nRAYSdnwCRESCENTSeTRIPLE CRESCENTS",
    "eQUADRUPLE CRESCENTSeSEPTUPLE CRESCENTSeCIRCLES tRAYSgTWO ENCLOSURESgFOUR ENCLOSURES",
    "bmTHREE-CIRCLE ALTERNATE IcTWO-CIRCLE ALTERNATE IfIIcALTERNATE UbVOWEL yALTERNATE UeUU"]⟩,
  ⟨0x11600,
   ["aMODI mAcAAcIcIIcUcUUcVOCALIC RdRRdLdLLcEcAIcOcAUcKAcKHAcGAcGHAcNGAcCAcCHAcJAcJHAcNYAcTTA",
    "cTTHAcDDAcDDHAcNNAcTAcTHAcDAcDHAcNAcPAcPHAcBAcBHAcMAcYAcRAcLAcVAcSHAcSSAcSAcHAcLLA",
    "bVOWEL yAAdIdIIdUdUUdVOCALIC ReRReLeLLdEdAIdOdAUbyANUSVARAcVISARGAcVIRAMAcARDHACANDRAbDANDA",
    "bwDANDAbABBREVIATION SIGNbyHUVA"]⟩,
  ⟨0x11650, ["aMODI DIGIT ZEROcONEcTWOcTHREEcFOURcFIVEcSIXcSEVENcEIGHTcNINE"]⟩,
  ⟨0x11660,
   ["aMONGOLIAN BIRGA nORNAMENTbROTATED BIRGAbwBIRGA nORNAMENTbTRIPLE BIRGA nORNAMENT",
    "bBIRGA nwORNAMENTbROTATED BIRGA nORNAMENTewORNAMENTbINVERTED BIRGAcBIRGA nwORNAMENT",
    "bSWIRL BIRGAcBIRGA nORNAMENTewORNAMENTbTURNED SWIRL BIRGA nwORNAMENT"]⟩,
  ⟨0x11680,
   ["aTAKRI mAcAAcIcIIcUcUUcEcAIcOcAUcKAcKHAcGAcGHAcNGAcCAcCHAcJAcJHAcNYAcTTAcTTHAcDDAcDDHAcNNA",
    "cTAcTHAcDAcDHAcNAcPAcPHAcBAcBHAcMAcYAcRAcLAcVAcSHAcSAcHAcRRAbyANUSVARAcVISARGAbVOWEL yAAdI",
    "dIIdUdUUdEdAIdOdAUbyVIRAMAcNUKTAbmARCHAIC KHAbABBREVIATION SIGN"]⟩,
  ⟨0x116c0, ["aTAKRI DIGIT ZEROcONEcTWOcTHREEcFOURcFIVEcSIXcSEVENcEIGHTcNINE"]⟩,
  ⟨0x11700,
   ["aAHOM mKAcKHAcNGAcNAcTAcALTERNATE TAcPAcPHAcBAcMAcJAcCHAcTHAcRAcLAcSAcNYAcHAcAcDAcDHAcGA",
    "cALTERNATE GAcGHAcBHAcJHAcALTERNATE BA"]⟩,
  ⟨0x1171d,
   ["aAHOM CONSONANT yMEDIAL LAeRAeLIGATING RAbVOWEL yAdAAdIdIIdUdUUdEdAWdOdAIdAMbyKILLER"]⟩,
  ⟨0x11730,
   ["aAHOM DIGIT ZEROcONEcTWOcTHREEcFOURcFIVEcSIXcSEVENcEIGHTcNINEbNUMBER TENcTWENTYbypSECTION",
    "cSECTIONcRULAIbSYMBOL VIbmCAcTTAcTTHAcDDAcDDHAcNNAcLLA"]⟩,
  ⟨0x11800,
   ["aDOGRA mAcAAcIcIIcUcUUcEcAIcOcAUcKAcKHAcGAcGHAcNGAcCAcCHAcJAcJHAcNYAcTTAcTTHAcDDAcDDHAcNNA",
    "cTAcTHAcDAcDHAcNAcPAcPHAcBAcBHAcMAcYAcRAcLAcVAcSHAcSSAcSAcHAcRRAbVOWEL yAAdIdIIdUdUU",
    "dVOCALIC ReRRdEdAIdOdAUbyANUSVARAcVISARGAcVIRAMAcNUKTAbABBREVIATION SIGN"]⟩,
  ⟨0x118a0,
   ["aWARANG CITI omNGAAeAeWIeYUeYAeYOeIIeUUeEeOeANGeGAeKOeENYeYUJeUCeENNeODDeTTEeNUNGeDAeATeAM",
    "eBUePUeHIYOeHOLOeHORReHAReSSUUeSIIeVIYOcpmNGAAeAeWIeYUeYAeYOeIIeUUeEeOeANGeGAeKOeENYeYUJeUC",
    "eENNeODDeTTEeNUNGeDAeATeAMeBUePUeHIYOeHOLOeHORReHAReSSUUeSIIeVIYOcDIGIT ZEROdONEdTWOdTHREE",
    "dFOURdFIVEdSIXdSEVENdEIGHTdNINEcNUMBER TENdTWENTYdTHIRTYdFORTYdFIFTYdSIXTYdSEVENTYdEIGHTY",
    "dNINETY"]⟩,
  ⟨0x118ff, ["aWARANG CITI OMaDIVES AKURU mAdAAdIdIIdUdUUdE"]⟩, ⟨0x11909, ["aDIVES AKURU mO"]⟩,
  ⟨0x1190c, ["aDIVES AKURU mKAdKHAdGAdGHAdNGAdCAdCHAdJA"]⟩, ⟨0x11915, ["aDIVES AKURU mNYAdTTA"]⟩,
  ⟨0x11918,
   ["aDIVES AKURU mDDAdDDHAdNNAdTAdTHAdDAdDHAdNAdPAdPHAdBAdBHAdMAdYAdYYAdRAdLAdVAdSHAdSSAdSAdHA",
    "dLLAdZAcVOWEL yAAeIeIIeUeUUeE"]⟩,
  ⟨0x11937, ["aDIVES AKURU VOWEL yAIeO"]⟩,
  ⟨0x1193b,
   ["aDIVES AKURU yANUSVARAdCANDRABINDUdHALANTAcVIRAMAcPREFIXED NASAL SIGNcMEDIAL YAcINITIAL RA",
    "cMEDIAL RAcyNUKTAcwDANDAcGAP FILLERcEND OF TEXT MARK"]⟩,
  ⟨0x11950, ["aDIVES AKURU DIGIT ZEROdONEdTWOdTHREEdFOURdFIVEdSIXdSEVENdEIGHTdNINE"]⟩,
  ⟨0x119a0, ["aNANDINAGARI mAcAAcIcIIcUcUUcVOCALIC RdRR"]⟩,
  ⟨0x119aa,
   ["aNANDINAGARI mEcAIcOcAUcKAcKHAcGAcGHAcNGAcCAcCHAcJAcJHAcNYAcTTAcTTHAcDDAcDDHAcNNAcTAcTHAcDA",
    "cDHAcNAcPAcPHAcBAcBHAcMAcYAcRAcLAcVAcSHAcSSAcSAcHAcLLAcRRAbVOWEL yAAdIdIIdUdUUdVOCALIC ReRR"]⟩,
  ⟨0x119da,
   ["aNANDINAGARI VOWEL yEdAIdOdAUbyANUSVARAcVISARGAcVIRAMAcAVAGRAHAcSIDDHAMbHEADSTROKE",
    "bVOWEL yPRISHTHAMATRA E"]⟩,
  ⟨0x11a00,
   ["aZANABAZAR SQUARE mAcVOWEL yIeUEeUeEeOEeOeAIeAUeREVERSED IdLENGTH MARKcmKAdKHAdGAdGHAdNGA",
    "dCAdCHAdJAdNYAdTTAdTTHAdDDAdDDHAdNNAdTAdTHAdDAdDHAdNAdPAdPHAdBAdBHAdMAdTSAdTSHAdDZAdDZHA",
    "dZHAdZAd-AdYAdRAdLAdVAdSHAdSSAdSAdHAdKSSAcFINAL CONSONANT MARKcyVIRAMAdCANDRABINDU",
    "dCANDRABINDU nORNAMENTdCANDRA nORNAMENTdANUSVARAdVISARGAcCLUSTER-INITIAL mRAdFINAL mYAfRA",
    "fLAfVAcINITIAL HEAD MARKcCLOSING HEAD MARKcMARK TSHEGdSHADdwSHADdLONG TSHEG",
    "cINITIAL DOUBLE-LINED HEAD MARKcCLOSING DOUBLE-LINED HEAD MARKcSUBJOINER"]⟩,
  ⟨0x11a50,
   ["aSOYOMBO mAbVOWEL yIdUEdUdEdOdOEdAIdAUdVOCALIC ReLcLENGTH MARKbmKAcKHAcGAcGHAcNGAcCAcCHAcJA",
    "cJHAcNYAcTTAcTTHAcDDAcDDHAcNNAcTAcTHAcDAcDHAcNAcPAcPHAcBAcBHAcMAcTSAcTSHAcDZAcZHAcZAc-AcYA",
    "cRAcLAcVAcSHAcSSAcSAcHAcKSSAbyJIHVAMULIYAcUPADHMANIYAbCLUSTER-INITIAL mRAeLAeSHAeSA",
    "bFINAL CONSONANT yGeKeNGeDeNeBeMeReLeSHeSe-AbyANUSVARAcVISARGAbGEMINATION MARKbSUBJOINER",
    "bMARK TSHEGcSHADcwSHADcPLUTAbHEAD MARK nMOON tSUN tTRIPLE FLAMEiFLAMEgSUNbTERMINAL MARK-1d2"]⟩,
  ⟨0x11ab0,
   ["aCANADIAN SYLLABICS NATTILIK HIdHIIdHOdHOOdHAdHAAdSHRIdSHRIIdSHROdSHROOdSHRAdSHRAAcSPEcSPI",
    "cSPOcSPAaPAU CIN HAU mPAeKAeLAeMAeDAeZAeVAeNGAeHAeGAeKHAeSAeBAeCAeTAeTHAeNAePHAeRAeFAeCHAeA",
    "eEeIeOeUeUAeIAeFINAL PfKfTfMfNfLfWfNGfYdRISING TONE LONGeTONEdSANDHI GLOTTAL STOP",
    "dRISING TONE LONG FINALfFINALdSANDHI GLOTTAL STOP FINALeTONE LONGeTONEeTONE LONG FINAL",
    "fFINALdMID-LEVEL TONEdGLOTTAL STOP VARIANTdMID-LEVEL TONE LONG FINALgFINAL",
    "dLOW-FALLING TONE LONGfTONEdGLOTTAL STOPdLOW-FALLING TONE LONG FINALgFINAL",
    "dGLOTTAL STOP FINAL"]⟩,
  ⟨0x11c00, ["aBHAIKSUKI mAcAAcIcIIcUcUUcVOCALIC RdRRdL"]⟩,
  ⟨0x11c0a,
   ["aBHAIKSUKI mEcAIcOcAUcKAcKHAcGAcGHAcNGAcCAcCHAcJAcJHAcNYAcTTAcTTHAcDDAcDDHAcNNAcTAcTHAcDA",
    "cDHAcNAcPAcPHAcBAcBHAcMAcYAcRAcLAcVAcSHAcSSAcSAcHAbVOWEL yAAdIdIIdUdUUdVOCALIC ReRReL"]⟩,
  ⟨0x11c38,
   ["aBHAIKSUKI VOWEL yEdAIdOdAUbyCANDRABINDUcANUSVARAcVISARGAcVIRAMAcAVAGRAHAbDANDAbwDANDA",
    "bWORD SEPARATORbGAP FILLER-1d2"]⟩,
  ⟨0x11c50,
   ["aBHAIKSUKI DIGIT ZEROcONEcTWOcTHREEcFOURcFIVEcSIXcSEVENcEIGHTcNINEbNUMBER ONEcTWOcTHREE",
    "cFOURcFIVEcSIXcSEVENcEIGHTcNINEcTENcTWENTYcTHIRTYcFORTYcFIFTYcSIXTYcSEVENTYcEIGHTYcNINETY",
    "bHUNDREDS UNIT MARK"]⟩,
  ⟨0x11c70,
   ["aMARCHEN HEAD MARKbMARK SHADbmKAcKHAcGAcNGAcCAcCHAcJAcNYAcTAcTHAcDAcNAcPAcPHAcBAcMAcTSA",
    "cTSHAcDZAcWAcZHAcZAc-AcYAcRAcLAcSHAcSAcHAcA"]⟩,
  ⟨0x11c92,
   ["aMARCHEN SUBJOINED mKAdKHAdGAdNGAdCAdCHAdJAdNYAdTAdTHAdDAdNAdPAdPHAdBAdMAdTSAdTSHAdDZAdWA",
    "dZHAdZA"]⟩,
  ⟨0x11ca9, ["aMARCHEN SUBJOINED mYAdRAdLAdSHAdSAdHAdAbVOWEL yAAdIdUdEdObyANUSVARAcCANDRABINDU"]⟩,
  ⟨0x11d00, ["aMASARAM GONDI mAdAAdIdIIdUdUUdE"]⟩, ⟨0x11d08, ["aMASARAM GONDI mAIdO"]⟩,
  ⟨0x11d0b,
   ["aMASARAM GONDI mAUdKAdKHAdGAdGHAdNGAdCAdCHAdJAdJHAdNYAdTTAdTTHAdDDAdDDHAdNNAdTAdTHAdDAdDHA",
    "dNAdPAdPHAdBAdBHAdMAdYAdRAdLAdVAdSHAdSSAdSAdHAdLLAdKSSAdJNYAdTRAcVOWEL yAAeIeIIeUeUU",
    "eVOCALIC R"]⟩,
  ⟨0x11d3a, ["aMASARAM GONDI VOWEL yE"]⟩, ⟨0x11d3c, ["aMASARAM GONDI VOWEL yAIeO"]⟩,
  ⟨0x11d3f,
   ["aMASARAM GONDI VOWEL yAUcyANUSVARAdVISARGAdNUKTAdCANDRAdHALANTAcVIRAMAcREPHAcRA-KARA"]⟩,
  ⟨0x11d50, ["aMASARAM GONDI DIGIT ZEROdONEdTWOdTHREEdFOURdFIVEdSIXdSEVENdEIGHTdNINE"]⟩,
  ⟨0x11d60, ["aGUNJALA GONDI mAdAAdIdIIdUdUU"]⟩, ⟨0x11d67, ["aGUNJALA GONDI mEEdAI"]⟩,
  ⟨0x11d6a,
   ["aGUNJALA GONDI mOOdAUdYAdVAdBAdBHAdMAdKAdKHAdTAdTHAdLAdGAdGHAdDAdDHAdNAdCAdCHAdTTAdTTHAdLLA",
    "dJAdJHAdDDAdDDHAdNGAdPAdPHAdHAdRAdSAcVOWEL yAAeIeIIeUeUU"]⟩,
  ⟨0x11d90, ["aGUNJALA GONDI VOWEL yEEeAI"]⟩,
  ⟨0x11d93, ["aGUNJALA GONDI VOWEL yOOeAUcyANUSVARAdVISARGAcVIRAMAcOM"]⟩,
  ⟨0x11da0, ["aGUNJALA GONDI DIGIT ZEROdONEdTWOdTHREEdFOURdFIVEdSIXdSEVENdEIGHTdNINE"]⟩,
  ⟨0x11ee0,
   ["aMAKASAR mKAcGAcNGAcPAcBAcMAcTAcDAcNAcCAcJAcNYAcYAcRAcLAcVAcSAcAbANGKAbVOWEL yIdUdEdO",
    "bPASSIMBANGbEND OF SECTION"]⟩,
  ⟨0x11fb0, ["aLISU mYHA"]⟩,
  ⟨0x11fc0,
   ["aTAMIL FRACTION ONE THREE-HUNDRED-AND-TWENTIETHdONE-HUNDRED-AND-SIXTIETHdEIGHTIETH",
    "dSIXTY-FOURTHdFORTIETHdTHIRTY-SECONDcTHREE EIGHTIETHSdSIXTY-FOURTHScONE TWENTIETH",
    "dSIXTEENTH-1e2dTENTHdEIGHTHcTHREE TWENTIETHSdSIXTEENTHScONE FIFTHdQUARTERdHALF-1e2",
    "cTHREE QUARTERScDOWNSCALING FACTOR KIIZHbyNELcCEVITUcAAZHAAKKUcUZHAKKUcMUUVUZHAKKUcKURUNI",
    "cPATHAKKUcMUKKURUNIcKAACUcPANAMcPONcVARAAKANcPAARAMcKUZHIcVELIbWET CULTIVATION SIGN",
    "bDRY CULTIVATION SIGNbLAND SIGNbSALT PAN SIGNbTRADITIONAL CREDIT SIGNcNUMBER SIGN",
    "bCURRENT SIGNbtODD SIGNbSPENT SIGNbTOTAL SIGNbIN POSSESSION SIGNbSTARTING FROM SIGN",
    "byMUTHALIYAcVAKAIYARAA"]⟩,
  ⟨0x11fff,
   ["aTAMIL PUNCTUATION END OF TEXTaCUNEIFORM yAcA TIMES AeBADeGAN2 TENUeHAeIGIeLAGAR GUNUeMUSH",
    "eSAGcA2cABcAB TIMES ASH2eDUN3 GUNUeGALeGAN2 TENUeHAeIGI GUNUeIMINeLAGABeSHESH",
    "eU PLUS U PLUS UdGUNUcAB2cAB2 TIMES BALAGeGAN2 TENUeME PLUS ENeSHA3eTAK4cADcAK",
    "cAK TIMES ERIN2eSHITA PLUS GISHcALcAL TIMES ALeDIM2eGISHeHAeKAD3eKIeSHEeUSHcALANcALEPHcAMAR",
    "cAMAR TIMES SHEcANcAN OVER ANdTHREE TIMESdPLUS NAGA OPPOSING AN PLUS NAGAfSQUAREDcANSHE",
    "cAPINcARADcARAD TIMES KURcARKABcASAL2cASHcASH ZIDA TENUdKABA TENU",
    "dOVER ASH TUG2 OVER TUG2 TUG2 OVER TUG2 PAPfOVER ASHgASH CROSSING ASH OVER ASH OVER ASH",
    "cASH2cASHGABcBAcBADcBAG3cBAHAR2cBALcBAL OVER BALcBALAGcBARcBARA2cBIcBI TIMES AeGAReIGI GUNU",
    "cBUcBU OVER BU ABfUNdCROSSING BUcBULUGcBULUG OVER BULUGcBURcBUR2cDAcDAG",
    "cDAG KISIM5 TIMES A PLUS MASHfAMARfBALAGfBIfGAfGA PLUS MASHfGIfGIR2fGUDfHAfIRfIR PLUS LU",
    "fKAKfLAfLUfLU PLUS MASH2fLUMfNEfPAP PLUS PAPfSIfTAK4fU2 PLUS GIR2fUSHcDAMcDARcDARA3cDARA4",
    "cDIcDIBcDIMcDIM TIMES SHEcDIM2cDINcDIN KASKAL U GUNU DISHcDISHcDUcDU OVER DUdGUNUdSHESHIG",
    "cDUBcDUB TIMES ESH2cDUB2cDUGcDUGUDcDUHcDUNcDUN3cDUN3 GUNUdGUNU GUNUcDUN4cDUR2cEcE TIMES PAP",
    "dOVER E NUN OVER NUNcE2cE2 TIMES A PLUS HA PLUS DAeGAReMIeSALeSHEeUcEDINcEGIRcELcEN",
    "cEN TIMES GAN2eGAN2 TENUeMEdCROSSING ENdOPPOSING ENdSQUAREDcERENcERIN2cESH2cEZEN",
    "cEZEN TIMES AeA PLUS LALgLAL TIMES LALeANeBADeDUN3 GUNUfGUNU GUNUeHAeHA GUNUeIGI GUNU",
    "eKASKALeKASKAL SQUAREDeKU3eLAeLAL TIMES LALeLIeLUeU2eUDcGAcGA GUNUcGA2",
    "cGA2 TIMES A PLUS DA PLUS HAgHAgIGIeAB2 TENU PLUS TABeANeASHeASH2 PLUS GALeBADeBAR PLUS RA",
    "eBUReBUR PLUS RAeDAeDIeDIM TIMES SHEeDUBeELeEL PLUS LAeENeEN TIMES GAN2 TENUeGAN2 TENUeGAR",
    "eGIeGI4eGI4 PLUS AeGIR2 PLUS SUeHA PLUS LU PLUS ESH2eHALeHAL PLUS LAeHI PLUS LIeHUB2",
    "eIGI GUNUeISH PLUS HU PLUS ASHeKAKeKASKALeKIDeKID PLUS LALeKU3 PLUS ANeLAeME PLUS ENeMIeNUN",
    "eNUN OVER NUNePAeSALeSAReSHEeSHE PLUS TUReSHIDeSUMeTAK4eUeUDeUD PLUS DUdOVER GA2cGABA",
    "cGABA CROSSING GABAcGADcGAD OVER GAD GAR OVER GARcGALcGAL GAD OVER GAD GAR OVER GARcGALAM",
    "cGAMcGANcGAN2cGAN2 TENUdOVER GAN2dCROSSING GAN2cGARcGAR3cGASHANcGESHTINcGESHTIN TIMES KUR",
    "cGIcGI TIMES EeUdCROSSING GIcGI4cGI4 OVER GI4dCROSSING GI4cGIDIMcGIR2cGIR2 GUNUcGIR3",
    "cGIR3 TIMES A PLUS IGIeGAN2 TENUeIGIeLU PLUS IGIePAcGISALcGISHcGISH CROSSING GISHdTIMES BAD",
    "eTAK4dTENUcGUcGU CROSSING GUcGU2cGU2 TIMES KAKeKAK TIMES IGI GUNUeNUNeSAL PLUS TUG2dGUNU",
    "cGUDcGUD TIMES A PLUS KUReKURdOVER GUD LUGALcGULcGUMcGUM TIMES SHEcGURcGUR7cGURUNcGURUSHcHA",
    "cHA TENUdGUNUcHALcHIcHI TIMES ASHeASH2eBADeDISHeGADeKINeNUNeSHEeUcHUcHUB2cHUB2 TIMES ANeHAL",
    "eKASKALeLISHeUDcHUL2cIcI AcIBcIDIMcIDIM OVER IDIM BURfSQUAREDcIGcIGIcIGI DIBdRI",
    "dOVER IGI SHIR OVER SHIR UD OVER UDdGUNUcILcIL TIMES GAN2 TENUcIL2cIMcIM TIMES TAK4",
    "dCROSSING IMdOPPOSING IMdSQUAREDcIMINcINcIRcISHcKAcKA TIMES AeADeAD PLUS KU3eASH2eBADeBALAG",
    "eBAReBIeERIN2eESH2eGAeGALeGAN2 TENUeGAReGAR PLUS SHA3 PLUS AeGIeGIR2eGISH PLUS SAR",
    "fCROSSING GISHeGUeGUR7eIGIeIMeKAKeKIeKIDeLIeLUeMEeME PLUS DUgGIgTEeMIeMI PLUS NUNUZeNEeNUN",
    "ePIeRUeSAeSAReSHAeSHEeSHIDeSHUeSIGeSUHUReTAReUeU2eUDeUMUM TIMES PAeUSHeZIcKA2",
    "cKA2 CROSSING KA2cKABcKAD2cKAD3cKAD4cKAD5cKAD5 OVER KAD5cKAKcKAK TIMES IGI GUNUcKAL",
    "cKAL TIMES BADdCROSSING KALcKAM2cKAM4cKASKALcKASKAL LAGAB TIMES U OVER LAGAB TIMES U",
    "dOVER KASKAL LAGAB TIMES U OVER LAGAB TIMES UcKESH2cKIcKI TIMES BADeUeUDcKIDcKINcKISALcKISH",
    "cKISIM5cKISIM5 OVER KISIM5cKUcKU OVER HI TIMES ASH2 KU OVER HI TIMES ASH2cKU3cKU4",
    "cKU4 VARIANT FORMcKU7cKULcKUL GUNUcKUNcKURcKUR OPPOSING KURcKUSHU2cKWU318cLAcLAGAB",
    "cLAGAB TIMES AeA PLUS DA PLUS HAgGARgLALeALeANeASH ZIDA TENUeBADeBIeDAReENeGAeGAReGUD",
    "eGUD PLUS GUDeHAeHALeHI TIMES NUNeIGI GUNUeIMeIM PLUS HAgLUeKIeKINeKU3eKUL",
    "eKUL PLUS HI PLUS AeLAGABeLISHeLUeLULeMEeME PLUS ENeMUSHeNEeSHE PLUS SUM",
    "eSHITA PLUS GISH PLUS ERIN2hTENUeSHU2eSHU2 PLUS SHU2eSUMeTAGeTAK4eTE PLUS A PLUS SU PLUS NA",
    "eUeU PLUS AgU PLUS UeU2 PLUS ASHeUDeUSHdSQUAREDcLAGARcLAGAR TIMES SHEeSHE PLUS SUMdGUNU",
    "dGUNU OVER LAGAR GUNU SHEcLAHSHUcLALcLAL TIMES LALcLAMcLAM TIMES KUReKUR PLUS RUcLIcLIL",
    "cLIMMU2cLISHcLUcLU TIMES BADcLU2cLU2 TIMES ALeBADeESH2eESH2 TENUeGAN2 TENUeHI TIMES BADeIM",
    "eKAD2eKAD3eKAD3 PLUS ASHeKIeLA PLUS ASHeLAGABeME PLUS ENeNEeNUeSI PLUS ASHeSIK2 PLUS BU",
    "eTUG2dTENUdCROSSING LU2dOPPOSING LU2dSQUAREDdSHESHIGcLU3cLUGALcLUGAL OVER LUGAL",
    "dOPPOSING LUGALdSHESHIGcLUHcLULcLUMcLUM OVER LUMeLUM GAR OVER GARcMAcMA TIMES TAK4dGUNUcMA2",
    "cMAHcMARcMASHcMASH2cMEcMEScMIcMINcMUcMU OVER MUcMUGcMUG GUNUcMUNSUBcMURGU2cMUSH",
    "cMUSH TIMES AeKUReZAdOVER MUSHeMUSH TIMES A PLUS NAdCROSSING MUSHcMUSH3cMUSH3 TIMES A",
    "eA PLUS DIeDIdGUNUcNAcNA2cNAGAcNAGA INVERTEDdTIMES SHU TENUdOPPOSING NAGAcNAGARcNAM NUTILLU",
    "cNAMcNAM2cNEcNE TIMES AeUDdSHESHIGcNIcNI TIMES EcNI2cNIMcNIM TIMES GAN2 TENU",
    "eGAR PLUS GAN2 TENUcNINDA2cNINDA2 TIMES ANeASHeASH PLUS ASHeGUDeME PLUS GAN2 TENUeNEeNUN",
    "eSHEeSHE PLUS A ANgASHgASH PLUS ASHeU2 PLUS ASHeUSHcNISAGcNUcNU11cNUNcNUN LAGAR TIMES GAR",
    "fMASHfSALfSAL OVER NUN LAGAR TIMES SALfUSHdTENUdOVER NUNdCROSSING NUNeNUN LAGAR OVER LAGAR",
    "cNUNUZcNUNUZ AB2 TIMES ASHGABfBIfDUGfGUDfIGI GUNUfKAD3fLAfNEfSILA3fU2dKISIM5 TIMES BIfBI U",
    "cPAcPADcPANcPAPcPESH2cPIcPI TIMES AeABeBIeBUeEeIeIBeUeU2dCROSSING PIcPIRIGcPIRIG TIMES KAL",
    "eUDeZAdOPPOSING PIRIGcRAcRABcRIcRUcSAcSAG NUTILLUcSAGcSAG TIMES AeDUeDUBeHAeKAKeKUReLUMeMI",
    "eNUNeSALeSHIDeTABeU2eUBeUMeUReUSHdOVER SAGdGUNUcSALcSAL LAGAB TIMES ASH2cSANGA2cSARcSHA",
    "cSHA3cSHA3 TIMES AeBADeGISHeNEeSHU2eTUReUeU PLUS AcSHA6cSHAB6cSHAR2cSHEcSHE HU",
    "dOVER SHE GAD OVER GAD GAR OVER GARfTAB OVER TAB GAR OVER GARcSHEG9cSHENcSHESHcSHESH2",
    "cSHESHLAMcSHIDcSHID TIMES AeIMcSHIMcSHIM TIMES AeBALeBULUGeDINeGAReIGIeIGI GUNUeKUSHU2eLUL",
    "eMUGeSALcSHINIGcSHIRcSHIR TENUdOVER SHIR BUR OVER BURcSHITAcSHUcSHU OVER INVERTED SHUcSHU2",
    "cSHUBURcSIcSI GUNUcSIGcSIG4cSIG4 OVER SIG4 SHU2cSIK2cSILA3cSUcSU OVER SUcSUDcSUD2cSUHURcSUM",
    "cSUMASHcSURcSUR9cTAcTA ASTERISKdTIMES HIeMIdGUNUcTABcTAB OVER TAB NI OVER NI DISH OVER DISH",
    "dSQUAREDcTAGcTAG TIMES BIeGUDeSHEeSHUeTUG2eUDcTAK4cTARcTEcTE GUNUcTIcTI TENUcTILcTIR",
    "cTIR TIMES TAK4dOVER TIReTIR GAD OVER GAD GAR OVER GARcTUcTUG2cTUKcTUMcTUR",
    "cTUR OVER TUR ZA OVER ZAcUcU GUDdU UdOVER U PA OVER PA GAR OVER GARfSUR OVER SUR",
    "fU REVERSED OVER U REVERSEDcU2cUBcUDcUD KUSHU2dTIMES BADeMIeU PLUS U PLUS UiU GUNUdGUNU",
    "dSHESHIGdSHESHIG TIMES BADcUDUGcUMcUM TIMES LAGABeME PLUS DAeSHA3eUcUMBINcUMUM",
    "cUMUM TIMES KASKALePAcUNcUN GUNUcURcUR CROSSING URdSHESHIGcUR2cUR2 TIMES A PLUS HAgNAeALeHA",
    "eNUNeU2eU2 PLUS ASHgBIcUR4cURIcURI3cURUcURU TIMES AeASHGABeBAReDUNeGAeGALeGAN2 TENUeGAReGU",
    "eHAeIGIeIMeISHeKIeLUMeMINePAeSHEeSIG4eTUeU PLUS GUDeUDeURUDAcURUDAcURUDA TIMES UcUSH",
    "cUSH TIMES AeKUeKUReTAK4cUSHXcUSH2cUSHUMXcUTUKIcUZ3cUZ3 TIMES KASKALcUZUcZAcZA TENU",
    "dSQUARED TIMES KURcZAGcZAMXcZE2cZIcZI OVER ZIcZI3cZIBcZIB KABA TENUcZIGcZIZ2cZUcZU5",
    "cZU5 TIMES AcZUBURcZUMcKAP ELAMITEcAB TIMES NUNcAB2 TIMES AcAMAR TIMES KUG",
    "cDAG KISIM5 TIMES U2 PLUS MASHcDAG3cDISH PLUS SHUcDUB TIMES SHEcEZEN TIMES GUDeSHE",
    "cGA2 TIMES AN PLUS KAK PLUS AeASH2cGE22cGIGcHUSHcKA TIMES ANSHEeASH3eGISHeGUDeHI TIMES ASH2",
    "eLUMePAeSHULeTUeUR2cLAGAB TIMES GIcLU2 SHESHIG TIMES BADdTIMES ESH2 PLUS LALeSHUcMESH",
    "cMUSH3 TIMES ZAcNA4cNINcNIN9cNINDA2 TIMES BALeGIcNU11 ROTATED NINETY DEGREEScPESH2 ASTERISK",
    "cPIR2cSAG TIMES IGI GUNUcTI2cUM TIMES MEcU U"]⟩,
  ⟨0x12400,
   ["aCUNEIFORM NUMERIC yTWO ASHdTHREE ASHdFOUR ASHdFIVE ASHdSIX ASHdSEVEN ASHdEIGHT ASH",
    "dNINE ASHdTHREE DISHdFOUR DISHdFIVE DISHdSIX DISHdSEVEN DISHdEIGHT DISHdNINE DISHdFOUR U",
    "dFIVE UdSIX UdSEVEN UdEIGHT UdNINE UdONE GESH2dTWO GESH2dTHREE GESH2dFOUR GESH2dFIVE GESH2",
    "dSIX GESH2dSEVEN GESH2dEIGHT GESH2dNINE GESH2dONE GESHUdTWO GESHUdTHREE GESHUdFOUR GESHU",
    "dFIVE GESHUdTWO SHAR2dTHREE SHAR2eSHAR2 VARIANT FORMdFOUR SHAR2dFIVE SHAR2dSIX SHAR2",
    "dSEVEN SHAR2dEIGHT SHAR2dNINE SHAR2dONE SHARUdTWO SHARUdTHREE SHARUeSHARU VARIANT FORM",
    "dFOUR SHARUdFIVE SHARUdSHAR2 TIMES GAL PLUS DISHhMINdONE BURUdTWO BURUdTHREE BURU",
    "eBURU VARIANT FORMdFOUR BURUdFIVE BURUdTHREE VARIANT FORM ESH16gESH21",
    "dFOUR VARIANT FORM LIMMUgLIMMU4gLIMMU AhBdSIX VARIANT FORM ASH9dSEVEN VARIANT FORM IMIN3",
    "gIMIN AhBdEIGHT VARIANT FORM USSUgUSSU3dNINE VARIANT FORM ILIMMUgILIMMU3gILIMMU4gILIMMU A",
    "dTWO ASH TENUdTHREE ASH TENUdFOUR ASH TENUdFIVE ASH TENUdSIX ASH TENUdONE BAN2dTWO BAN2",
    "dTHREE BAN2dFOUR BAN2eBAN2 VARIANT FORMdFIVE BAN2eBAN2 VARIANT FORMdNIGIDAMINdNIGIDAESH",
    "dONE ESHE3dTWO ESHE3dONE THIRD DISHdTWO THIRDS DISHdFIVE SIXTHS DISH",
    "dONE THIRD VARIANT FORM AdTWO THIRDS VARIANT FORM AdONE EIGHTH ASHeQUARTER ASH",
    "dOLD ASSYRIAN ONE SIXTHgQUARTERdONE QUARTER GUReHALF GURdELAMITE ONE THIRDeTWO THIRDSeFORTY",
    "eFIFTYdFOUR U VARIANT FORMdFIVE U VARIANT FORMdSIX U VARIANT FORMdSEVEN U VARIANT FORM",
    "dEIGHT U VARIANT FORMdNINE U VARIANT FORM"]⟩,
  ⟨0x12470,
   ["aCUNEIFORM PUNCTUATION yOLD ASSYRIAN WORD DIVIDERdVERTICAL COLONdDIAGONAL COLONeTRICOLON",
    "eQUADCOLON"]⟩,
  ⟨0x12480,
   ["aCUNEIFORM yAB TIMES NUN TENUeSHU2cAD TIMES ESH2cBAD TIMES DISH TENUcBAHAR2 TIMES AB2eNIeZA",
    "cBU OVER BU TIMES NA2cDA TIMES TAK4cDAG TIMES KURcDIM TIMES IGIeU U UcDIM2 TIMES UD",
    "cDUG TIMES ANSHEeASHeASH AT LEFTeDINeDUNeERIN2eGAeGIeGIR2 GUNUeGISHeHAeHIeIGI GUNUeKASKAL",
    "eKUReKUSHU2eKUSHU2 PLUS KASKALeLAK-020eLAMeLAM TIMES KUReLUH PLUS GISHeMASHeMESeMIeNIePI",
    "eSHEeSI GUNUcE2 TIMES KURePAPcERIN2 XcESH2 CROSSING ESH2cEZEN SHESHIG TIMES ASHfHIfIGI GUNU",
    "fLAfLALfMEfMESfSUdTIMES SUcGA2 TIMES BAHAR2eDIM GUNUeDUG TIMES IGI GUNUgKASKALeERENeGA",
    "eGAR PLUS DIgNEeHA PLUS AeKUSHU2 PLUS KASKALeLAMeLAM TIMES KUReLUHeMUSHeNEeNE PLUS E2gGI",
    "eSHIMeZIZ2cGABA ROTATED NINETY DEGREEScGESHTIN TIMES UcGISH TIMES GISH CROSSING GISH",
    "cGU2 TIMES IGI GUNUcGUD PLUS GISH TIMES TAK4cHA TENU GUNUcHI TIMES ASH OVER HI TIMES ASH",
    "cKA TIMES BUeKAeU U UeURcLAGAB TIMES ZU OVER ZUcLAK-003d021d025d030d050d051d062",
    "d079 OVER LAK-079 GUNUd080d081 OVER LAK-081d092d130d142d210d219d220d225d228d238d265d266d343",
    "d347d348d383d384d390d441d449d449 TIMES GUfIGIfPAP PLUS LU3hPAP PLUS LU3fU2 PLUS BAd450d457",
    "d470d483d490d492d493d495d550d608d617d617 TIMES ASHfBADfDUN3 GUNU GUNUfKU3fLAfTARfTEfU2fUD",
    "fURUDAd636d648d648 TIMES DUBfGAfIGIfIGI GUNUfNIfPAP PLUS PAP PLUS LU3fSHESH PLUS KIfUD",
    "fURUDAd724d749cLU2 GUNU TIMES ASHdTIMES DISHeHALePAPePAP PLUS PAP PLUS LU3eTAK4cMI PLUS ZA7",
    "cMUSH OVER MUSH TIMES GAgKAKcNINDA2 TIMES DIM GUNUeGISHeGULeHIeKESH2eLAK-050eMASH",
    "ePAP PLUS PAPeUeU PLUS UeURUDAcSAG GUNU TIMES HAdTIMES ENeSHE AT LEFTeTAK4cSHA6 TENU",
    "cSHE OVER SHEdPLUS HUB2eNAM2eSARcSHU2 PLUS DUG TIMES NIeE2 TIMES ANcSI TIMES TAK4",
    "cTAK4 PLUS SAGcTUM TIMES GAN2 TENUeTHREE DISHcUR2 INVERTEDdTIMES UDcURU TIMES DARA3eLAK-668",
    "eLU3cZA7cZU OVER ZU PLUS SARcZU5 TIMES THREE DISH TENU"]⟩,
  ⟨0x12f90,
   ["aCYPRO-MINOAN yCM001dCM002dCM004dCM005dCM006dCM007dCM008dCM009dCM010dCM011dCM012dCM012B",
    "dCM013dCM015dCM017dCM019dCM021dCM023dCM024dCM025dCM026dCM027dCM028dCM029dCM030dCM033dCM034",
    "dCM035dCM036dCM037dCM038dCM039dCM040dCM041dCM044dCM046dCM047dCM049dCM050dCM051dCM052dCM053",
    "dCM054dCM055dCM056dCM058dCM059dCM060dCM061dCM062dCM063dCM064dCM066dCM067dCM068dCM069dCM070",
    "dCM071dCM072dCM073dCM074dCM075dCM075BdCM076dCM078dCM079dCM080dCM081dCM082dCM083dCM084dCM085",
    "dCM086dCM087dCM088dCM089dCM090dCM091dCM092dCM094dCM095dCM096dCM097dCM098dCM099dCM100dCM101",
    "dCM102dCM103dCM104dCM105dCM107dCM108dCM109dCM110dCM112dCM114dCM301dCM302"]⟩,
  ⟨0x13000,
   ["aEGYPTIAN HIEROGLYPH A001cA002cA003cA004cA005cA005AcA006cA006AcA006BcA007cA008cA009cA010",
    "cA011cA012cA013cA014cA014AcA015cA016cA017cA017AcA018cA019cA020cA021cA022cA023cA024cA025",
    "cA026cA027cA028cA029cA030cA031cA032cA032AcA033cA034cA035cA036cA037cA038cA039cA040cA040A",
    "cA041cA042cA042AcA043cA043AcA044cA045cA045AcA046cA047cA048cA049cA050cA051cA052cA053cA054",
    "cA055cA056cA057cA058cA059cA060cA061cA062cA063cA064cA065cA066cA067cA068cA069cA070cB001cB002",
    "cB003cB004cB005cB005AcB006cB007cB008cB009cC001cC002cC002AcC002BcC002CcC003cC004cC005cC006",
    "cC007cC008cC009cC010cC010AcC011cC012cC013cC014cC015cC016cC017cC018cC019cC020cC021cC022cC023",
    "cC024cD001cD002cD003cD004cD005cD006cD007cD008cD008AcD009cD010cD011cD012cD013cD014cD015cD016",
    "cD017cD018cD019cD020cD021cD022cD023cD024cD025cD026cD027cD027AcD028cD029cD030cD031cD031A",
    "cD032cD033cD034cD034AcD035cD036cD037cD038cD039cD040cD041cD042cD043cD044cD045cD046cD046A",
    "cD047cD048cD048AcD049cD050cD050AcD050BcD050CcD050DcD050EcD050FcD050GcD050HcD050IcD051cD052",
    "cD052AcD053cD054cD054AcD055cD056cD057cD058cD059cD060cD061cD062cD063cD064cD065cD066cD067",
    "cD067AcD067BcD067CcD067DcD067EcD067FcD067GcD067HcE001cE002cE003cE004cE005cE006cE007cE008",
    "cE008AcE009cE009AcE010cE011cE012cE013cE014cE015cE016cE016AcE017cE017AcE018cE019cE020cE020A",
    "cE021cE022cE023cE024cE025cE026cE027cE028cE028AcE029cE030cE031cE032cE033cE034cE034AcE036",
    "cE037cE038cF001cF001AcF002cF003cF004cF005cF006cF007cF008cF009cF010cF011cF012cF013cF013A",
    "cF014cF015cF016cF017cF018cF019cF020cF021cF021AcF022cF023cF024cF025cF026cF027cF028cF029cF030",
    "cF031cF031AcF032cF033cF034cF035cF036cF037cF037AcF038cF038AcF039cF040cF041cF042cF043cF044",
    "cF045cF045AcF046cF046AcF047cF047AcF048cF049cF050cF051cF051AcF051BcF051CcF052cF053cG001cG002",
    "cG003cG004cG005cG006cG006AcG007cG007AcG007BcG008cG009cG010cG011cG011AcG012cG013cG014cG015",
    "cG016cG017cG018cG019cG020cG020AcG021cG022cG023cG024cG025cG026cG026AcG027cG028cG029cG030",
    "cG031cG032cG033cG034cG035cG036cG036AcG037cG037AcG038cG039cG040cG041cG042cG043cG043AcG044",
    "cG045cG045AcG046cG047cG048cG049cG050cG051cG052cG053cG054cH001cH002cH003cH004cH005cH006",
    "cH006AcH007cH008cI001cI002cI003cI004cI005cI005AcI006cI007cI008cI009cI009AcI010cI010AcI011",
    "cI011AcI012cI013cI014cI015cK001cK002cK003cK004cK005cK006cK007cK008cL001cL002cL002AcL003",
    "cL004cL005cL006cL006AcL007cL008cM001cM001AcM001BcM002cM003cM003AcM004cM005cM006cM007cM008",
    "cM009cM010cM010AcM011cM012cM012AcM012BcM012CcM012DcM012EcM012FcM012GcM012HcM013cM014cM015",
    "cM015AcM016cM016AcM017cM017AcM018cM019cM020cM021cM022cM022AcM023cM024cM024AcM025cM026cM027",
    "cM028cM028AcM029cM030cM031cM031AcM032cM033cM033AcM033BcM034cM035cM036cM037cM038cM039cM040",
    "cM040AcM041cM042cM043cM044cN001cN002cN003cN004cN005cN006cN007cN008cN009cN010cN011cN012cN013",
    "cN014cN015cN016cN017cN018cN018AcN018BcN019cN020cN021cN022cN023cN024cN025cN025AcN026cN027",
    "cN028cN029cN030cN031cN032cN033cN033AcN034cN034AcN035cN035AcN036cN037cN037AcN038cN039cN040",
    "cN041cN042cNL001cNL002cNL003cNL004cNL005cNL005AcNL006cNL007cNL008cNL009cNL010cNL011cNL012",
    "cNL013cNL014cNL015cNL016cNL017cNL017AcNL018cNL019cNL020cNU001cNU002cNU003cNU004cNU005cNU006",
    "cNU007cNU008cNU009cNU010cNU010AcNU011cNU011AcNU012cNU013cNU014cNU015cNU016cNU017cNU018",
    "cNU018AcNU019cNU020cNU021cNU022cNU022AcO001cO001AcO002cO003cO004cO005cO005AcO006cO006A",
    "cO006BcO006CcO006DcO006EcO006FcO007cO008cO009cO010cO010AcO010BcO010CcO011cO012cO013cO014",
    "cO015cO016cO017cO018cO019cO019AcO020cO020AcO021cO022cO023cO024cO024AcO025cO025AcO026cO027",
    "cO028cO029cO029AcO030cO030AcO031cO032cO033cO033AcO034cO035cO036cO036AcO036BcO036CcO036D",
    "cO037cO038cO039cO040cO041cO042cO043cO044cO045cO046cO047cO048cO049cO050cO050AcO050BcO051",
    "cP001cP001AcP002cP003cP003AcP004cP005cP006cP007cP008cP009cP010cP011cQ001cQ002cQ003cQ004",
    "cQ005cQ006cQ007cR001cR002cR002AcR003cR003AcR003BcR004cR005cR006cR007cR008cR009cR010cR010A",
    "cR011cR012cR013cR014cR015cR016cR016AcR017cR018cR019cR020cR021cR022cR023cR024cR025cR026cR027",
    "cR028cR029cS001cS002cS002AcS003cS004cS005cS006cS006AcS007cS008cS009cS010cS011cS012cS013",
    "cS014cS014AcS014BcS015cS016cS017cS017AcS018cS019cS020cS021cS022cS023cS024cS025cS026cS026A",
    "cS026BcS027cS028cS029cS030cS031cS032cS033cS034cS035cS035AcS036cS037cS038cS039cS040cS041",
    "cS042cS043cS044cS045cS046cT001cT002cT003cT003AcT004cT005cT006cT007cT007AcT008cT008AcT009",
    "cT009AcT010cT011cT011AcT012cT013cT014cT015cT016cT016AcT017cT018cT019cT020cT021cT022cT023",
    "cT024cT025cT026cT027cT028cT029cT030cT031cT032cT032AcT033cT033AcT034cT035cT036cU001cU002",
    "cU003cU004cU005cU006cU006AcU006BcU007cU008cU009cU010cU011cU012cU013cU014cU015cU016cU017",
    "cU018cU019cU020cU021cU022cU023cU023AcU024cU025cU026cU027cU028cU029cU029AcU030cU031cU032",
    "cU032AcU033cU034cU035cU036cU037cU038cU039cU040cU041cU042cV001cV001AcV001BcV001CcV001DcV001E",
    "cV001FcV001GcV001HcV001IcV002cV002AcV003cV004cV005cV006cV007cV007AcV007BcV008cV009cV010",
    "cV011cV011AcV011BcV011CcV012cV012AcV012BcV013cV014cV015cV016cV017cV018cV019cV020cV020A",
    "cV020BcV020CcV020DcV020EcV020FcV020GcV020HcV020IcV020JcV020KcV020LcV021cV022cV023cV023A",
    "cV024cV025cV026cV027cV028cV028AcV029cV029AcV030cV030AcV031cV031AcV032cV033cV033AcV034cV035",
    "cV036cV037cV037AcV038cV039cV040cV040AcW001cW002cW003cW003AcW004cW005cW006cW007cW008cW009",
    "cW009AcW010cW010AcW011cW012cW013cW014cW014AcW015cW016cW017cW017AcW018cW018AcW019cW020cW021",
    "cW022cW023cW024cW024AcW025cX001cX002cX003cX004cX004AcX004BcX005cX006cX006AcX007cX008cX008A",
    "cY001cY001AcY002cY003cY004cY005cY006cY007cY008cZ001cZ002cZ002AcZ002BcZ002CcZ002DcZ003cZ003A",
    "cZ003BcZ004cZ004AcZ005cZ005AcZ006cZ007cZ008cZ009cZ010cZ011cZ012cZ013cZ014cZ015cZ015AcZ015B",
    "cZ015CcZ015DcZ015EcZ015FcZ015GcZ015HcZ015IcZ016cZ016AcZ016BcZ016CcZ016DcZ016EcZ016FcZ016G",
    "cZ016HcAA001cAA002cAA003cAA004cAA005cAA006cAA007cAA007AcAA007BcAA008cAA009cAA010cAA011",
    "cAA012cAA013cAA014cAA015cAA016cAA017cAA018cAA019cAA020cAA021cAA022cAA023cAA024cAA025cAA026",
    "cAA027cAA028cAA029cAA030cAA031cAA032"]⟩,
  ⟨0x13430,
   ["aEGYPTIAN HIEROGLYPH VERTICAL JOINERcHORIZONTAL JOINERcINSERT AT TOP STARTeBOTTOM START",
    "eTOP ENDeBOTTOM ENDcOVERLAY MIDDLEcBEGIN SEGMENTcEND SEGMENT"]⟩,
  ⟨0x14400,
   ["aANATOLIAN HIEROGLYPH A001cA002cA003cA004cA005cA006cA007cA008cA009cA010cA010AcA011cA012",
    "cA013cA014cA015cA016cA017cA018cA019cA020cA021cA022cA023cA024cA025cA026cA026AcA027cA028cA029",
    "cA030cA031cA032cA033cA034cA035cA036cA037cA038cA039cA039AcA040cA041cA041AcA042cA043cA044",
    "cA045cA045AcA046cA046AcA046BcA047cA048cA049cA050cA051cA052cA053cA054cA055cA056cA057cA058",
    "cA059cA060cA061cA062cA063cA064cA065cA066cA066AcA066BcA066CcA067cA068cA069cA070cA071cA072",
    "cA073cA074cA075cA076cA077cA078cA079cA080cA081cA082cA083cA084cA085cA086cA087cA088cA089cA090",
    "cA091cA092cA093cA094cA095cA096cA097cA097AcA098cA098AcA099cA100cA100AcA101cA101AcA102cA102A",
    "cA103cA104cA104AcA104BcA104CcA105cA105AcA105BcA106cA107cA107AcA107BcA107CcA108cA109cA110",
    "cA110AcA110BcA111cA112cA113cA114cA115cA115AcA116cA117cA118cA119cA120cA121cA122cA123cA124",
    "cA125cA125AcA126cA127cA128cA129cA130cA131cA132cA133cA134cA135cA135AcA136cA137cA138cA139",
    "cA140cA141cA142cA143cA144cA145cA146cA147cA148cA149cA150cA151cA152cA153cA154cA155cA156cA157",
    "cA158cA159cA160cA161cA162cA163cA164cA165cA166cA167cA168cA169cA170cA171cA172cA173cA174cA175",
    "cA176cA177cA178cA179cA180cA181cA182cA183cA184cA185cA186cA187cA188cA189cA190cA191cA192cA193",
    "cA194cA195cA196cA197cA198cA199cA200cA201cA202cA202AcA202BcA203cA204cA205cA206cA207cA207A",
    "cA208cA209cA209AcA210cA211cA212cA213cA214cA215cA215AcA216cA216AcA217cA218cA219cA220cA221",
    "cA222cA223cA224cA225cA226cA227cA227AcA228cA229cA230cA231cA232cA233cA234cA235cA236cA237cA238",
    "cA239cA240cA241cA242cA243cA244cA245cA246cA247cA248cA249cA250cA251cA252cA253cA254cA255cA256",
    "cA257cA258cA259cA260cA261cA262cA263cA264cA265cA266cA267cA267AcA268cA269cA270cA271cA272cA273",
    "cA274cA275cA276cA277cA278cA279cA280cA281cA282cA283cA284cA285cA286cA287cA288cA289cA289AcA290",
    "cA291cA292cA293cA294cA294AcA295cA296cA297cA298cA299cA299AcA300cA301cA302cA303cA304cA305",
    "cA306cA307cA308cA309cA309AcA310cA311cA312cA313cA314cA315cA316cA317cA318cA319cA320cA321cA322",
    "cA323cA324cA325cA326cA327cA328cA329cA329AcA330cA331cA332AcA332BcA332CcA333cA334cA335cA336",
    "cA336AcA336BcA336CcA337cA338cA339cA340cA341cA342cA343cA344cA345cA346cA347cA348cA349cA350",
    "cA351cA352cA353cA354cA355cA356cA357cA358cA359cA359AcA360cA361cA362cA363cA364cA364AcA365",
    "cA366cA367cA368cA368AcA369cA370cA371cA371AcA372cA373cA374cA375cA376cA377cA378cA379cA380",
    "cA381cA381AcA382cA383 RA OR RIcA383AcA384cA385cA386cA386AcA387cA388cA389cA390cA391cA392",
    "cA393 EIGHTcA394cA395cA396cA397cA398cA399cA400cA401cA402cA403cA404cA405cA406cA407cA408cA409",
    "cA410 BEGIN LOGOGRAM MARKcA410A END LOGOGRAM MARKcA411cA412cA413cA414cA415cA416cA417cA418",
    "cA419cA420cA421cA422cA423cA424cA425cA426cA427cA428cA429cA430cA431cA432cA433cA434cA435cA436",
    "cA437cA438cA439cA440cA441cA442cA443cA444cA445cA446cA447cA448cA449cA450cA450AcA451cA452cA453",
    "cA454cA455cA456cA457cA457AcA458cA459cA460cA461cA462cA463cA464cA465cA466cA467cA468cA469cA470",
    "cA471cA472cA473cA474cA475cA476cA477cA478cA479cA480cA481cA482cA483cA484cA485cA486cA487cA488",
    "cA489cA490cA491cA492cA493cA494cA495cA496cA497cA501cA502cA503cA504cA505cA506cA507cA508cA509",
    "cA510cA511cA512cA513cA514cA515cA516cA517cA518cA519cA520cA521cA522cA523cA524cA525cA526cA527",
    "cA528cA529cA530"]⟩,
  ⟨0x16800,
   ["aBAMUM mPHASE-A NGKUE MFONeGBIEE FONePON MFON PIPAEMGBIEEgPIPAEMBAeNAA MFONeSHUENSHUET",
    "eTITA MFONeNZA MFONeSHINDA PA NJIePON PA NJI PIPAEMGBIEEhPIPAEMBAeMAEMBGBIEEeTU MAEMBA",
    "eNGANGUeMAEMVEUXeMANSUAEeMVEUAENGAMeSEUNYAMeNTOQPENeKEUKEUTNDAeNKINDIeSUUeNGKUENZEUMeLAPAQ",
    "eLET KUTeNTAP MFAAeMAEKEUPePASHAEeGHEUAERAEePAMSHAEeMON NGGEUAETeNZUN MEUTeU YUQ NAE",
    "eGHEUAEGHEUAEeNTAP NTAAeSISAeMGBASAeMEUNJOMNDEUQeMOOMPUQeKAFAePA LEERAEWAeNDA LEERAEWAePET",
    "eMAEMKPENeNIKAePUPeTUAEPeLUAEPeSONJAMeTEUTEUWENeMAENYIeKETeNDAANGGEUAETeKUOQeMOOMEUTeSHUM",
    "eLOMMAEeFIRIeROMeKPOQeSOQeMAP PIEETeSHIRAEeNTAPeSHOQ NSHUT YUMeNYIT MONGKEUAEQePAARAE",
    "eNKAARAEeUNKNOWNeNGGENeMAESIeNJAMeMBANYIeNYETeTEUAENeSOTePAAMeNSHIEEeMAEMeNYIeKAQeNSHAeVEE",
    "eLUeNENeNAQeMBAQdB NSHUETeTU MAEMGBIEEeSIEEeSET TUeLOM NTEUMeMBA MAELEEeKIEEMeYEURAE",
    "eMBAARAEeKAMePEESHIeYAFU LEERAEWAeLAM NSHUT NYAMeNTIEE SHEUOQeNDU NJAAeGHEUGHEUAEMePIT",
    "eTU NSIEEeSHET NJAQeSHEUAEQTUeMFON TEUAEQeMBIT MBAAKETeNYI NTEUMeKEUPUQeGHEUGHENeKEUYEUX",
    "eLAANAEePARUMeVEUMeNGKINDI MVOPeNGGEU MBUeWUAETeSAKEUAEeTAAMeMEUQeNGGUOQeNGGUOQ LARGE",
    "eMFIYAQeSUEeMBEURIeMONTIEENeNYAEMAEePUNGAAMeMEUT NGGEETeFEUXeMBUOQeFEEeKEUAEMeMA NJEUAENA",
    "fNJUQAeLETeNGGAAMeNSENeMAeKIQeNGOMdC NGKUE MAEMBAeNZAeYUMeWANGKUOQeNGGENeNDEUAEREEeNGKAQ",
    "eGHARAEeMBEEKEETeGBAYIeNYIR MKPARAQ MEUNeNTU MBITeMBEUMePIRIEENeNDOMBUeMBAA CABBAGE-TREE",
    "eKEUSHEUAEPeGHAPeKEUKAQeYU MUOMAEeNZEUMeMBUEeNSEUAENeMBITeYEUQeKPARAQeKAAeSEUXeNDIDA",
    "eTAASHAEeNJUEQeTITA YUEeSUAETeNGGUAEN NYAMeVEUXeNANSANAQeMA KEUAERIeNTAAeNGGUONeLAP",
    "eMBIRIEENeMGBASAQeNTEUNGBAeTEUTEUXeNGGUMeFUEeNDEUTeNSAeNSHAQeBUNGeVEUAEPENeMBERAEeRUeNJAEM",
    "eLAMeTITUAEPeNSUOT NGOMeNJEEEEeKETeNGGUeMAESIeMBUAEMeLUeKUTeNJAMeNGOMeWUPeNGGUEETeNSOMeNTEN",
    "eKUOP NKAARAEeNSUNeNDAMeMA NSIEEeYAAeNDAPeSHUEQeSETFONeMBIeMAEMBAeMBANYIeKEUSEUXeMBEUXeKEUM",
    "eMBAA PICKETeYUWOQeNJEUXeMIEEeMUAEeSHIQeKEN LAWfFATIGUEeNGAQeNAQeLIQePINePENeTETdD MBUOeWAP",
    "eNJIeMFONeNJIEEeLIEEeNJEUTeNSHEEeNGGAAMAEeNYAMeWUAENeNGKUNeSHEEeNGKAPeKEUAETMEUNeTEUT",
    "eSHEUAEeNJAPeSUEeKETeYAEMMAEeKUOMeSAPeMFEUTeNDEUXeMALEERIeMEUTeSEUAEQeYENeNJEUAEM",
    "eKEUOT MBUAEeNGKEURIeTUeGHAAeNGKYEEeFEUFEUAETeNDEEeMGBOFUMeLEUAEPeNDONeMONIeMGBEUNePUUT",
    "eMGBIEEeMFOeLUMeNSIEEPeMBAAeKWAETeNYETeTEUAENeSOTeYUWOQeKEUMeRAEMeTEEEEeNGKEUAEQeMFEUAE",
    "eNSIEETeKEUPePIPePEUTAEeNYUEeLETeNGGAAMeMFIEEeNGGWAENeYUOMePAPeYUOPeNDAMeNTEUMeSUAEeKUN",
    "eNGGEUXeNGKIEEeTUOTeMEUNeKUQeNSUMeTEUNeMAENJETeNGGAPeLEUMeNGGUOMeNSHUTeNJUEQeGHEUAEeKU",
    "eREN OLDeTAEeTOQeNYIeRIIeLEEEEeMEEEEeMeSUUeMUeSHIIeSHEUXeKYEEeNUeSHUeNTEEePEEeNIeSHOQePUQ",
    "eMVOPeLOQeREN MUCHeTIeNTUUeMBAA SEVENeSAQeFAAdE NDAPeTOONeMBEUMeLAPeVOMeLOONePAAeSOMeRAQ",
    "eNSHUOPeNDUNePUAEeTAMeNGKAeKPEUXeWUOeSEEeNGGEUAETePAAMeTOOeKUOPeLOMeNSHIEEeNGOPeMAEMeNGKEUX",
    "eNGOQeNSHUEeRIMGBAeNJEUXePEEMeSAAeNGGURAEeMGBAeGHEUXeNGKEUAEMeNJAEMLIeMAPeLOOTeNGGEEEEeNDIQ",
    "eTAEN NTEUMeSETePUMeNDAA SOFTNESSeNGGUAESHAE NYAMeYIEEeGHEUNeTUAEeYEUAEePOeTUMAEeKEUAE",
    "eSUAENeTEUAEQeVEUAEeWEUXeLAAMePUeTAAQeGHAAMAEeNGEUREUTeSHEUAEQeMGBENeMBEEeNZAQeNKOMeGBET",
    "eTUMeKUETeYAPeNYI CLEAVEReYITeMFEUQeNDIAQePIEEQeYUEQeLEUAEMeFUEeGBEUXeNGKUPeKETeMAEeNGKAAMI",
    "eGHETeFAeNTUMePEUTeYEUMeNGGEUAEeNYI BETWEENeNZUQePOONeMIEEeFUETeNAEeMUAEeGHEUAEeFU IeMVI",
    "ePUAQeNGKUMeKUTePIETeNTAPeYEUAETeNGGUPePA PEOPLEeFU CALLeFOMeNJEEeAeTOQeOeIeLAQePA PLURAL",
    "eTAAeTAQeNDAA MY HOUSEeSHIQeYEUXeNGUAEeYUAENeYOQ SWIMMINGfCOVEReYUQeYUNeKEUXePEUX",
    "eNJEE EPOCHePUEeWUEeFEEeVEEeLUeMIeREUXeRAEeNGUAETeNGAeSHOeSHOQeFU REMEDYeNAePIeLOQeKOeMEN",
    "eMAeMAQeTEUeKIeMONeTENeFAQeGHOMdF KAeUeKUeEEeREEeTAEeNYIeLAeRIIeRIEEeMEEEEeTAAeNDAAeNJAEMeM",
    "eSUUeSHIIeSIeSEUXeKYEEeKETeNUAEeNUeNJUAEeYOQeSHUeYAeNSHAePEUXeNTEEeWUEePEEeRUeNIeREUXeKEN",
    "eNGKWAENeNGGAeSHOePUAEeFOMeWAeLIeLOQeKOeMBENeRENeMAeMOeMBAAeTETeKPAeSAMBAeVUEQ"]⟩,
  ⟨0x16a40,
   ["aMRO mTAcNGIcYOcMIMcBAcDAcAcPHIcKHAIcHAOcDAIcCHUcKEAAEcOLcMAEMcNINcPAcOOcOcROcSHIcTHEAcEA",
    "cWAcEcKOcLANcLAcHAIcRIcTEK"]⟩,
  ⟨0x16a60, ["aMRO DIGIT ZEROcONEcTWOcTHREEcFOURcFIVEcSIXcSEVENcEIGHTcNINE"]⟩,
  ⟨0x16a6e,
   ["aMRO DANDAbwDANDAaTANGSA mOZcOCcOQcOXcAZcACcAQcAXcVZcVCcVQcVXcEZcECcEQcEXcIZcICcIQcIXcUZcUC",
    "cUQcUXcAWZcAWCcAWQcAWXcUIZcUICcUIQcUIXcFINAL NGcLONG UEXcSHORT UEZdAWXcUECcUEZcUEQcUEXcUIUZ",
    "cUIUCcUIUQcUIUXcMZcMCcMQcMXcKAcKHAcGAcNGAcSAcYAcWAcPAcNYAcPHAcBAcMAcNAcHAcLAcHTAcTAcDAcRA",
    "cNHAcSHAcCAcTSAcGHAcHTTAcTHAcXAcFAcDHAcCHAcZA"]⟩,
  ⟨0x16ac0, ["aTANGSA DIGIT ZEROcONEcTWOcTHREEcFOURcFIVEcSIXcSEVENcEIGHTcNINE"]⟩,
  ⟨0x16ad0,
   ["aBASSA VAH mENNIdKAdSEdFAdMBEdYIEdGAHdDHIIdKPAHdJOdHWAHdWAdZOdGBUdDOdCEdUWUdTOdBAdVUdYEIN",
    "dPAdWADDAdAdOdOOdUdEEdEdI"]⟩,
  ⟨0x16af0,
   ["aBASSA VAH COMBINING HIGH TONEdLOW TONEdMID TONEdLOW-MID TONEdHIGH-LOW TONEcFULL STOP"]⟩,
  ⟨0x16b00,
   ["aPAHAWH HMONG VOWEL KEEBdKEEVdKIBdKIVdKAUBdKAUVdKUBdKUVdKEBdKEVdKAIBdKAIVdKOOBdKOOVdKAWB",
    "dKAWVdKUABdKUAVdKOBdKOVdKIABdKIAVdKABdKAVdKWBdKWVdKAABdKAAVcCONSONANT VAUdNTSAUdLAUdHAU",
    "dNLAUdRAUdNKAUdQHAUdYAUdHLAUdMAUdCHAUdNCHAUdHNAUdPLHAUdNTHAUdNAUdAUdXAUdCAUcMARK CIM TUBeSO",
    "eKESeKHAVeSUAMeHOMeTAUMcyVOS THOMeTSHAB CEEBdCIM CHEEMdVOS THIABeFEEMdXYEEM NTXIVeRHOeTOV",
    "eFAIBdVOS SEEVdMEEJ SUABdVOS NRUAdIB YAMdXAUSdCIM TSOV ROG"]⟩,
  ⟨0x16b50, ["aPAHAWH HMONG DIGIT ZEROdONEdTWOdTHREEdFOURdFIVEdSIXdSEVENdEIGHTdNINE"]⟩,
  ⟨0x16b5b,
   ["aPAHAWH HMONG NUMBER TENSdHUNDREDSdTEN THOUSANDSdMILLIONSdHUNDRED MILLIONSdTEN BILLIONS",
    "dTRILLIONS"]⟩,
  ⟨0x16b63,
   ["aPAHAWH HMONG yVOS LUBdXYOOdHLIdTHIRD-STAGE HLIdZWJ THAJdHNUBdNQIGdXIABdNTUJdAVdTXHEEJ CEEV",
    "dMEEJ TSEEBdTAUdLOSdMUSdCIM HAIS LUS NTOG NTOGeCUAM TSHOOJeTXWVeTXWV CHWVePUB DAWBeNRES TOS"]⟩,
  ⟨0x16b7d,
   ["aPAHAWH HMONG CLAN yTSHEEJeYEEGeLISeLAUJeXYOOJeKOOeHAWJeMUASeTHOJeTSABePHABeKHABeHAMeVAJ",
    "eFAJeYAJeTSWBeKWMeVWJ"]⟩,
  ⟨0x16e40,
   ["aMEDEFAIDRIN omMdSdVdWdATIUdZdKPdPdTdGdFdIdKdAdJdEdBdCdUdYUdLdQdHPdNYdXdDdOEdNdRdOdAIdYbpmM",
    "dSdVdWdATIUdZdKPdPdTdGdFdIdKdAdJdEdBdCdUdYUdLdQdHPdNYdXdDdOEdNdRdOdAIdYbDIGIT ZEROcONEcTWO",
    "cTHREEcFOURcFIVEcSIXcSEVENcEIGHTcNINEbNUMBER TENcELEVENcTWELVEcTHIRTEENcFOURTEENcFIFTEEN",
    "cSIXTEENcSEVENTEENcEIGHTEENcNINETEENbDIGIT ONE ALTERNATE FORMcTWO ALTERNATE FORM",
    "cTHREE ALTERNATE FORMbCOMMAbFULL STOPbSYMBOL AIVAbEXCLAMATION OH"]⟩,
  ⟨0x16f00,
   ["aMIAO mPAcBAcYI PAcPLAcMAcMHAcARCHAIC MAcFAcVAcVFAcTAcDAcYI TTAdTAcTTAcDDAcNAcNHAcYI NNA",
    "cARCHAIC NAcNNAcNNHAcLAcLYAcLHAcLHYAcTLHAcDLHAcTLHYAcDLHYAcKAcGAcYI KAcQAcQGAcNGAcNGHA",
    "cARCHAIC NGAcHAcXAcGHAcGHHAcTSSAcDZZAcNYAcNYHAcTSHAcDZHAcYI TSHAdDZHAcREFORMED TSHAcSHAcSSA",
    "cZHAcZSHAcTSAcDZAcYI TSAcSAcZAcZSAcZZAcZZSAcARCHAIC ZZAcZZYAcZZSYAcWAcAHcHHAcBRIcSYIcDZYI",
    "cTEcTSEcRTE"]⟩,
  ⟨0x16f4f,
   ["aMIAO yCONSONANT MODIFIER BARbmNASALIZATIONbyASPIRATIONcREFORMED VOICINGdASPIRATION",
    "bVOWEL yAdAAdAHHdANdANGdOdOOdWOdWdEdENdENGdOEYdIdIAdIANdIANGdIOdIEdIIdIUdINGdUdUAdUANdUANG",
    "dUUdUEIdUNGdYdYIdAEdAEEdERRdROUNDED ERRdERdROUNDED ERdAIdEIdAUdOUdNdNGdUOGdYUIdOGdOERdVWdIG",
    "dEAdIONGdUI"]⟩,
  ⟨0x16f8f,
   ["aMIAO TONE RIGHTcTOP RIGHTcABOVEcBELOWbmTONE-2d3d4d5d6d7d8cREFORMED TONE-1e2e4e5e6e8"]⟩,
  ⟨0x16fe0,
   ["aTANGUT ITERATION MARKaNUSHU ITERATION MARKaOLD CHINESE HOOK MARKcITERATION MARK",
    "aKHITAN pSCRIPT FILLER"]⟩,
  ⟨0x16ff0, ["aVIETNAMESE ALTERNATE READING MARK CAeNHAY"]⟩,
  ⟨0x18800,
   ["aTANGUT COMPONENT-001c002c003c004c005c006c007c008c009c010c011c012c013c014c015c016c017c018",
    "c019c020c021c022c023c024c025c026c027c028c029c030c031c032c033c034c035c036c037c038c039c040",
    "c041c042c043c044c045c046c047c048c049c050c051c052c053c054c055c056c057c058c059c060c061c062",
    "c063c064c065c066c067c068c069c070c071c072c073c074c075c076c077c078c079c080c081c082c083c084",
    "c085c086c087c088c089c090c091c092c093c094c095c096c097c098c099c100c101c102c103c104c105c106",
    "c107c108c109c110c111c112c113c114c115c116c117c118c119c120c121c122c123c124c125c126c127c128",
    "c129c130c131c132c133c134c135c136c137c138c139c140c141c142c143c144c145c146c147c148c149c150",
    "c151c152c153c154c155c156c157c158c159c160c161c162c163c164c165c166c167c168c169c170c171c172",
    "c173c174c175c176c177c178c179c180c181c182c183c184c185c186c187c188c189c190c191c192c193c194",
    "c195c196c197c198c199c200c201c202c203c204c205c206c207c208c209c210c211c212c213c214c215c216",
    "c217c218c219c220c221c222c223c224c225c226c227c228c229c230c231c232c233c234c235c236c237c238",
    "c239c240c241c242c243c244c245c246c247c248c249c250c251c252c253c254c255c256c257c258c259c260",
    "c261c262c263c264c265c266c267c268c269c270c271c272c273c274c275c276c277c278c279c280c281c282",
    "c283c284c285c286c287c288c289c290c291c292c293c294c295c296c297c298c299c300c301c302c303c304",
    "c305c306c307c308c309c310c311c312c313c314c315c316c317c318c319c320c321c322c323c324c325c326",
    "c327c328c329c330c331c332c333c334c335c336c337c338c339c340c341c342c343c344c345c346c347c348",
    "c349c350c351c352c353c354c355c356c357c358c359c360c361c362c363c364c365c366c367c368c369c370",
    "c371c372c373c374c375c376c377c378c379c380c381c382c383c384c385c386c387c388c389c390c391c392",
    "c393c394c395c396c397c398c399c400c401c402c403c404c405c406c407c408c409c410c411c412c413c414",
    "c415c416c417c418c419c420c421c422c423c424c425c426c427c428c429c430c431c432c433c434c435c436",
    "c437c438c439c440c441c442c443c444c445c446c447c448c449c450c451c452c453c454c455c456c457c458",
    "c459c460c461c462c463c464c465c466c467c468c469c470c471c472c473c474c475c476c477c478c479c480",
    "c481c482c483c484c485c486c487c488c489c490c491c492c493c494c495c496c497c498c499c500c501c502",
    "c503c504c505c506c507c508c509c510c511c512c513c514c515c516c517c518c519c520c521c522c523c524",
    "c525c526c527c528c529c530c531c532c533c534c535c536c537c538c539c540c541c542c543c544c545c546",
    "c547c548c549c550c551c552c553c554c555c556c557c558c559c560c561c562c563c564c565c566c567c568",
    "c569c570c571c572c573c574c575c576c577c578c579c580c581c582c583c584c585c586c587c588c589c590",
    "c591c592c593c594c595c596c597c598c599c600c601c602c603c604c605c606c607c608c609c610c611c612",
    "c613c614c615c616c617c618c619c620c621c622c623c624c625c626c627c628c629c630c631c632c633c634",
    "c635c636c637c638c639c640c641c642c643c644c645c646c647c648c649c650c651c652c653c654c655c656",
    "c657c658c659c660c661c662c663c664c665c666c667c668c669c670c671c672c673c674c675c676c677c678",
    "c679c680c681c682c683c684c685c686c687c688c689c690c691c692c693c694c695c696c697c698c699c700",
    "c701c702c703c704c705c706c707c708c709c710c711c712c713c714c715c716c717c718c719c720c721c722",
    "c723c724c725c726c727c728c729c730c731c732c733c734c735c736c737c738c739c740c741c742c743c744",
    "c745c746c747c748c749c750c751c752c753c754c755c756c757c758c759c760c761c762c763c764c765c766",
    "c767c768"]⟩,
  ⟨0x1aff0, ["aKATAKANA mMINNAN TONE-2e3e4e5"]⟩,
  ⟨0x1aff5, ["aKATAKANA mMINNAN TONE-7e8dNASALIZED TONE-1f2f3f4f5"]⟩,
  ⟨0x1affd, ["aKATAKANA mMINNAN NASALIZED TONE-7f8"]⟩,
  ⟨0x1b000,
   ["aKATAKANA mARCHAIC EaHIRAGANA mARCHAIC YEaHENTAIGANA mA-1d2d3dWOcI-1d2d3d4cU-1d2d3d4d5cE-2",
    "d3d4d5d6cO-1d2d3cKA-1d2d3d4d5d6d7d8d9d10d11dKEcKI-1d2d3d4d5d6d7d8cKU-1d2d3d4d5d6d7cKE-1d2d3",
    "d4d5d6cKO-1d2d3dKIcSA-1d2d3d4d5d6d7d8cSI-1d2d3d4d5d6cSU-1d2d3d4d5d6d7d8cSE-1d2d3d4d5cSO-1d2",
    "d3d4d5d6d7cTA-1d2d3d4cTI-1d2d3d4d5d6d7cTU-1d2d3d4dTOcTE-1d2d3d4d5d6d7d8d9cTO-1d2d3d4d5d6dRA",
    "cNA-1d2d3d4d5d6d7d8d9cNI-1d2d3d4d5d6d7dTEcNU-1d2d3cNE-1d2d3d4d5d6dKOcNO-1d2d3d4d5cHA-1d2d3",
    "d4d5d6d7d8d9d10d11cHI-1d2d3d4d5d6d7cHU-1d2d3cHE-1d2d3d4d5d6d7cHO-1d2d3d4d5d6d7d8cMA-1d2d3d4",
    "d5d6d7cMI-1d2d3d4d5d6d7cMU-1d2d3d4cME-1d2dMAcMO-1d2d3d4d5d6cYA-1d2d3d4d5dYOcYU-1d2d3d4cYO-1",
    "d2d3d4d5d6cRA-1d2d3d4cRI-1d2d3d4d5d6d7cRU-1d2d3d4d5d6cRE-1d2d3d4cRO-1d2d3d4d5d6cWA-1d2d3d4",
    "d5cWI-1d2d3d4d5cWE-1d2d3d4cWO-1d2d3d4d5d6d7cN-MU-MO-1f2aHIRAGANA mARCHAIC WU",
    "aKATAKANA mARCHAIC YIdYEdWU"]⟩,
  ⟨0x1b150, ["aHIRAGANA mpWIdWEdWO"]⟩, ⟨0x1b164, ["aKATAKANA mpWIdWEdWOdN"]⟩,
  ⟨0x1bc00,
   ["aDUPLOYAN mHcXcPcTcFcKcLcBcDcVcGcRcP NcD ScF NcK McR ScTHcSLOAN DHcDHcKKcSLOAN JcHLcLHcRHcM",
    "cNcJcScM NcN McJ McS JcM nDOTcN nDOTcJ nDOTeDOTS INSIDE tABOVEcS nDOTeDOT BELOWcM ScN ScJ S",
    "cS ScM N ScN M ScJ M ScS J ScJ S nDOTdNdN ScS TdT RdPdP RcT SdR ScWcWHcW RcS NdMcK R S",
    "cG R ScS KdK RcAcSLOAN OWcOAcOcAOUcIcEcIEcSHORT IcUIcEEcSLOAN EHcROMANIAN IcSLOAN EEcLONG I",
    "cYEcUcEUcXWcU NcLONG UcROMANIAN UcUHcSLOAN UcOOHcOWcOUcWAcWOcWIcWEIcWOWcNASAL UdOdIdA",
    "cPERNIN ANdAMcSLOAN ENdANdONcVOCALIC M"]⟩,
  ⟨0x1bc70,
   ["aDUPLOYAN AFFIX xHORIZONTAL SECANTcMID HORIZONTAL SECANTcuHORIZONTAL SECANT",
    "cLOW VERTICAL SECANTcMID VERTICAL SECANTcHIGH VERTICAL SECANTcATTACHED SECANT",
    "dLEFT-TO-uSECANTdTANGENTdTAILdE HOOKdI HOOKdTANGENT HOOK"]⟩,
  ⟨0x1bc80,
   ["aDUPLOYAN AFFIX HIGH ACUTEdTIGHT ACUTEdGRAVEdLONG GRAVEdDOTdCIRCLEdLINEdWAVEdVERTICAL"]⟩,
  ⟨0x1bc90,
   ["aDUPLOYAN AFFIX LOW ACUTEdTIGHT ACUTEdGRAVEdLONG GRAVEdDOTdCIRCLEdLINEdWAVEdVERTICALdz"]⟩,
  ⟨0x1bc9c,
   ["aDUPLOYAN yO nCROSSbTHICK mSELECTORbwMARKbPUNCTUATION CHINOOK FULL STOP",
    "aSHORTHAND FORMAT mOVERLAPcCONTINUING OVERLAPcDOWN STEPcUP STEP"]⟩,
  ⟨0x1cf00,
   ["aZNAMENNY COMBINING MARK GORAZDO NIZKO S KRYZHEM ON LEFTdNIZKO S KRYZHEM ON LEFT",
    "dTSATA ON LEFTdGORAZDO NIZKO ON LEFTdNIZKO ON LEFTdSREDNE ON LEFTdMALO POVYSHE ON LEFT",
    "dPOVYSHE ON LEFTdVYSOKO ON LEFTdMALO POVYSHE S KHOKHLOM ON LEFTdPOVYSHE S KHOKHLOM ON LEFT",
    "dVYSOKO S KHOKHLOM ON LEFTdGORAZDO NIZKO S KRYZHEM ON RIGHTdNIZKO S KRYZHEM ON RIGHT",
    "dTSATA ON RIGHTdGORAZDO NIZKO ON RIGHTdNIZKO ON RIGHTdSREDNE ON RIGHTdMALO POVYSHE ON RIGHT",
    "dPOVYSHE ON RIGHTdVYSOKO ON RIGHTdMALO POVYSHE S KHOKHLOM ON RIGHT",
    "dPOVYSHE S KHOKHLOM ON RIGHTdVYSOKO S KHOKHLOM ON RIGHTdTSATA S KRYZHEM",
    "dMALO POVYSHE S KRYZHEMdSTRANNO MALO POVYSHEdPOVYSHE S KRYZHEMeSTRANNOdVYSOKO S KRYZHEM",
    "dMALO POVYSHE STRANNOdGORAZDO VYSOKOdZELOdONdRAVNOdTIKHAYAdBORZAYAdUDARKAdPODVERTKAdLOMKA",
    "dKUPNAYAdKACHKAdZEVOKdSKOBAdRAZSEKAdKRYZH ON LEFT"]⟩,
  ⟨0x1cf30,
   ["aZNAMENNY COMBINING TONAL RANGE MARK MRACHNOfSVETLOfTRESVETLOcMARK ZADERZHKA",
    "dDEMESTVENNY ZADERZHKAdOTSECHKAdPODCHASHIEdPODCHASHIE nVERTICAL STROKEdCHASHKA",
    "dCHASHKA POLNAYAdOBLACHKOdSOROCHYA NOZHKAdTOCHKAdDVOETOCHIEcATTACHING VERTICAL OMET",
    "cMARK CURVED OMETdKRYZHcLOWER TONAL RANGE INDICATORbPRIZNAK MODIFIER LEVEL-2e3",
    "dDIRECTION FLIPdKRYZHdROG"]⟩,
  ⟨0x1cf50,
   ["aZNAMENNY NEUME KRYUKcKRYUK TIKHYcPARAKLITcDVA V CHELNUcKLYUCHcZANOZHEKcSTOPITSA",
    "cSTOPITSA S OCHKOMcPEREVODKAcPEREVODKA NEPOSTOYANNAYAcSTOPITSA nSOROCHYA NOZHKAcCHELYUSTKA",
    "cPALKAcZAPYATAYAcGOLUBCHIK BORZYdTIKHYdMRACHNYdSVETLYdTRESVETLYcVRAKHIYA PROSTAYAdMRACHNAYA",
    "dSVETLAYAdTRESVETLAYAdKLYUCHEVAYA PROSTAYAeMRACHNAYAeSVETLAYAeTRESVETLAYAcwZAPYATAYA",
    "cREVERSED CHELYUSTKAcDERBITSAcKHAMILOcCHASHKAcPODCHASHIEcSKAMEYTSA MRACHNAYAdSVETLAYA",
    "dTRESVETLAYAdTIKHAYAcDEMESTVENNY KLYUCHcSKAMEYTSA KLYUCHEVAYA SVETLAYA",
    "dKLYUCHENEPOSTOYANNAYAdKLYUCHEVAYA TIKHAYAdDVOECHELNAYA PROSTAYAeSVETLAYAeNEPOSTOYANNAYA",
    "eKLYUCHEVAYAcSLOZHITIEcSLOZHITIE S ZAPYATOYdZAKRYTOEdS KRYZHEMcKRYZHcROGcFITAcKOBYLA",
    "cZMEYTSAcSTATYAcSTATYA S ZAPYATOYeKRYZHEMeZAPYATOY I KRYZHEMeKRYZHEM I ZAPYATOYdZAKRYTAYA",
    "dZAKRYTAYA S ZAPYATOYdS ROGOMeDVUMYA ZAPYATYMIeZAPYATOY I PODCHASHIEMcPOLKULIZMY",
    "cSTATYA NEPOSTOYANNAYAcSTRELA PROSTAYAdMRACHNOTIKHAYAdKRYZHEVAYAdPOLUPOVODNAYAdPOVODNAYA",
    "dNEPOSTOYANNAYAdKLYUCHEPOVODNAYAdKLYUCHENEPOSTOYANNAYAdTIKHAYA PUTNAYAdDVOECHELNAYA",
    "dDVOECHELNOKRYZHEVAYAdDVOECHELNOPOVODNAYAdDVOECHELNAYA KLYUCHEVAYA",
    "dDVOECHELNOPOVODNAYA KLYUCHEVAYAdGROMNAYA nSINGLE ZAPYATAYA",
    "dGROMOPOVODNAYA nSINGLE ZAPYATAYAdGROMNAYAdGROMOPOVODNAYAdGROMOPOVODNAYA nwZAPYATAYA",
    "dGROMOKRYZHEVAYAdGROMOKRYZHEVAYA POVODNAYAcMECHIKcMECHIK POVODNYdKLYUCHEVOYdKLYUCHEPOVODNY",
    "dKLYUCHENEPOSTOYANNYcSTRELA TRYASOGLASNAYAdTRYASOPOVODNAYAdTRYASOSTRELNAYAcOSOKA",
    "cOSOKA SVETLAYAdTRESVETLAYAdKRYUKOVAYA SVETLAYAdKLYUCHEVAYA SVETLAYAeNEPOSTOYANNAYA",
    "cSTRELA KRYUKOVAYAdKRYUKOVAYA POVODNAYAeGROMNAYA nSINGLE ZAPYATAYA",
    "eGROMOPOVODNAYA nSINGLE ZAPYATAYAeGROMNAYAeGROMOPOVODNAYAeGROMOPOVODNAYA nwZAPYATAYA",
    "eGROMOKRYZHEVAYAeGROMOKRYZHEVAYA POVODNAYAeTRYASKAcKUFISMAcOBLAKOcDUDAcNEMKAcPAUK"]⟩]

end PhoneticCatalog.Text
