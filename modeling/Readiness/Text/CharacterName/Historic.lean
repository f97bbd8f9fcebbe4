/-!
# Names of characters: historic scripts

The names of the code points from U+10000 to U+1CFFF, save those that a rule gives.
How they are written down is told where they are looked up.
-/

namespace Readiness.CharacterName

/-- The names of the code points from U+10000 to U+1CFFF, save those that a rule gives. -/
def historic : List String := [
  "(10000).LINEAR B SYLLABLE B008 Ae38 Ee28 Ie61 Oe10 Ue01 DAf45 DEf07 DIf14 DOf51 DUe7 JAf46 JE(",
  "1000D)f36 JOf65 JUf77 KAf44 KEf67 KIf70 KOf81 KUe0 MAf13 MEf73 MIf15 MOf23 MUf06 NAf24 NEf30 N",
  "If52 NOe5 NUf03 PAf72 PEf39 PIf11 POf50 PUf16 QAf78 QEf21 QIf32 QO(10028)f60 RAf27 REf53 RIf0",
  "2 ROf26 RUf31 SAf09 SEf41 SIf12 SOf58 SUe9 TAf04 TEf37 TIf05 TOf69 TUf54 WAf75 WEf40 WIe2 WO(1",
  "003C)f17 ZAf74 ZE(1003F)f20 ZOe5 A2f43 A3f85 AUf71 DWEg90 DWOg48 NWAg29 PU2g62 PTEg76 RA2g33 R",
  "A3g68 RO2f6 TA2g87 TWEg91 TWO(10050)pMBOL B018b9c22c34c47b9c56c63b4c79c82b3b6b9(10080)lIDEOGRA",
  "M B100 MANf2 WOMANh4 DEERg5 EQUIDgF MAREgM STALLIONl6F EWEfM RAMg7F SHE-GOATkM HE-GOATk8F SOWf",
  "M BOARh9F COWfM BULLi20 WHEATh1 BARLEYi2 OLIVEh3 SPICEh5 CYPERUSvMONOGRAM B127 KAPOg8 KANAKOuI",
  "DEOGRAM B130 OILf1 WINEg2nMONOGRAM B133 AREPAh5 MERIsIDEOGRAM B140 BRONZEi1 GOLDg2b5 WOOLg6c50",
  "b1 HORNg2b3b4nMONOGRAM B156 TURO2tIDEOGRAM B157b8b9 CLOTHi60b1b2 GARMENTj3 ARMOURi4b5b6b7b8b9c",
  "70b1b2b3 MONTHh4b6 TREEg7b8b9c80b1b2b3b4b5b9c90b1 HELMETk220 FOOTSTOOLl5 BATHTUBk30 SPEARh1:h2",
  "b3 SWORDh4b6c40 WHEELED CHARIOTr1 CHARIOTj2 CHARIOT FRAMEp3 WHEELh5b6nMONOGRAM B247 DIPTEtIDEO",
  "GRAM B248b9c51b2b3b4 DARTg5b6b7b8b9eVESSEL B155d200b1b2b3b4b5b6b7b8b9c10b1b2b3b4b5b6b7b8b9c21b",
  "2b6b7b8b9c50d305(10100).AEGEAN WORD SEPARATOR LINEeDOTsCHECK|(10107)kNUMBER ONEdTWOcHREEfFOURd",
  "IVEeSIXcEVENfEIGHTfNINEeTENcWENTYfHIRTYgFORTYeIFTYfSIXTYeEVENTYhEIGHTYgNINETYgONE HUNDREDlTW",
  "O HUNDREDkHREE HUNDREDnFOUR HUNDREDlIVE HUNDREDmSIX HUNDREDkEVEN HUNDREDnEIGHT HUNDREDnNINE HU",
  "NDREDmONE THOUSANDmTWO THOUSANDlHREE THOUSANDoFOUR THOUSANDmIVE THOUSANDnSIX THOUSANDlEVEN THO",
  "USANDoEIGHT THOUSANDoNINE THOUSANDnTEN THOUSANDlWENTY THOUSANDoHIRTY THOUSANDpFORTY THOUSANDnI",
  "FTY THOUSANDoSIXTY THOUSANDnEVENTY THOUSANDqEIGHTY THOUSANDpNINETY THOUSAND(10137)wWEIGHT BAS",
  "E UNITjFIRST SUBUNITnSECOND SUBUNIToTHIRD SUBUNITnFOURTH SUBUNITvDRY MEASURE FIRST SUBUNITzLIQ",
  "UID MEASURE FIRST SUBUNIT.AEGEAN MEASURE SECOND SUBUNIToTHIRD SUBUNIT.GREEK ACROPHONIC ATTIC O",
  "NE QUARTERhHALFeDRACHMAlFIVEcFTYdVE HUNDREDhTHOUSANDlFTY THOUSANDmVE TALENTSmTEN TALENTSlFIFT",
  "Y TALENTSnONE HUNDRED TALENTStFIVE HUNDRED TALENTSuONE THOUSAND TALENTSuFIVE THOUSAND TALENTSq",
  "STATERSmTEN STATERSlFIFTY STATERSnONE HUNDRED STATERStFIVE HUNDRED STATERSuONE THOUSAND STATER",
  "SuTEN THOUSAND STATERSuFIFTY THOUSAND STATERSwTEN MNASoHERAEUM ONE PLETHRONuTHESPIAN ONEmHERMI",
  "ONIAN ONEoEPIDAUREAN TWOoTHESPIAN TWOmCYRENAIC TWO DRACHMASvEPIDAUREAN TWO DRACHMASxTROEZENIA",
  "N FIVEeTENa ALTERNATE&.GREEK ACROPHONIC HERMIONIAN TENoMESSENIAN TENnTHESPIAN TENcHIRTYoROEZEN",
  "IAN FIFTYa ALTERNATE&.GREEK ACROPHONIC HERMIONIAN FIFTYqTHESPIAN FIFTYfONE HUNDREDlTHREE HUNDR",
  "EDwEPIDAUREAN FIVE HUNDREDxTROEZENIAN FIVE HUNDREDwHESPIAN FIVE HUNDREDvCARYSTIAN FIVE HUNDRED",
  "wNAXIAN FIVE HUNDREDtTHESPIAN ONE THOUSANDmFIVE THOUSANDwDELPHIC FIVE MNASrSTRATIAN FIFTY MNAS",
  ".GREEK ONE HALF;a ALTERNATE&.GREEK TWO THIRDS;oHREE QUARTERS;tYEAR;jTALENT;lDRACHMA;mOBOL;jTW",
  "O OBOLS;nHREE OBOLS;qFOUR OBOLS;oIVE OBOLS;pMETRETES;nKYATHOS BASE;rLITRA;kOUNKIA;lXESTES;lART",
  "ABE;jOURA;lGRAMMA;lTRYBLION BASE;sZERO;jONE QUARTER;qSINUSOID;nINDICTION;.NOMISMA;(10190).ROMA",
  "N SEXTANS;mUNCIA;kSEMUNCIA;lXTULA;mDIMIDIA SEXTULA;uSILIQUA;mDENARIUS;nQUINARIUS;oSESTERTIUS;p",
  "DUPONDIUS;oAS;hCENTURIAL;.ASCIA_(101A0).GREEK_ TAU RHO(101D0).PHAISTOS DISC; PEDESTRIANjLUME",
  "D HEADlTATTOOED HEADnCAPTIVEgHILDfWOMANfHELMETgGAUNTLETiTIARAfARROWfBOWdSHIELDgCLUBeMANACLESgT",
  "TOCKhSAWdLIDdBOOMERANGjCARPENTRY PLANEpDOLIUMgCOMBeSLINGfCOLUMNgBEEHIVEhSHIPeHORNdIDEeBULLS LE",
  "GjCATdRAMdEAGLEfDOVEeTUNNYfBEEdPLANE TREEkVINEePAPYRUShROSETTEhLILYeOX BACKhFLUTEfGRATERgSTRAI",
  "NERhMALL AXEjWAVY BANDjCOMBINING OBLIQUE STROKE(10280).LYCIAN$AbEbBaHcGbDbIbWbZbTHcJbKbQbLbMbN",
  "bMMcNNcUbPbKKcRbSbTaTcANcENcHbX(102A0).CARIAN$AbP2cDbLbUUUdRbLDcA2cQbBbMbObD2cTbSHa2cbC-18eUbN",
  "NcXbNbTT2dPbSScIbEbUUUUeKa2cNDcUUcGa2cSTa2dNGcIIcC-39eTTcUUU2eRRcMBa2b3b4dLD2dE2cUUU3(102E0)rO",
  "PTIC EPACT THOUSANDS|oDIGIT ONEdTWOcHREEfFOURdIVEeSIXcEVENfEIGHTfNINEkNUMBER TENcWENTYfHIRTYgF",
  "ORTYeIFTYfSIXTYeEVENTYhEIGHTYgNINETYgONE HUNDREDlTWO HUNDREDkHREE HUNDREDnFOUR HUNDREDlIVE HUN",
  "DREDmSIX HUNDREDkEVEN HUNDREDnEIGHT HUNDREDnNINE HUNDRED(10300).OLD ITALIC$AbBEcKEcDEcEbVEcZEc",
  "HEcTHEdIbKAcELbMbNbSHdObPEcSHEdKUcERbScTEcUbEKSdPHEdKHEdEFbRSdCHEdIIcUUcESSkNUMERAL ONEdFIVEeT",
  "ENdFIFTY(1032D)nLETTER YEcNORTHERN TSEmSOUTHERN TSE.GOTHIC$AHSAeBAIRKANhGIBAeDAGSeAIHVUSgQAIRT",
  "HRAiIUJAeHAGLeTHIUTHgEISdKUSMAfLAGUSfMANNAfNAUTHSgJERdURUSePAIRTHRAiNINETYgRAIDAfSAUILfTEIWSfW",
  "INJAfFAIHUfIGGWSfHWAIRfOTHALfNINE HUNDRED(10350).OLD PERMIC$ANcBURdGAIdDOIdEbZHOIeDZHOIfZATAeD",
  "ZITAfIbKOKEeLEIdMENOEfNENOEfVOOIePEEIeREIdSIIdTAIdUbCHERYfSHOOIdCHOOIhYRYcERUeOaOcEFcHAcTSIUeV",
  "ERdYERaIdATdIEcYUbAcIA.COMBINING OLD PERMIC$ANcDOIdZATAeNENOEfSII(10380).UGARITIC$ALPAeBETAeGA",
  "MLAfKHAdDELTAfHOcWOcZETAeHOTAeTETdYODdKAFdSHINeLAMDAfMEMdDHALeNUNdZUcSAMKAfAINdPUcSADEeQOPAeRA",
  "SHAfTHANNAgGHAINfTOcIbUbSSU(1039F)kWORD DIVIDER.OLD PERSIAN; AbIbUbKAbUcGAbUcXAcCAcJAbIcTAbUcD",
  "AbIbUcTHAdPAcBAcFAcNAbUcMAbIbUcYAcVAbIcRAbUcLAcSAcZAcSHAcSAdHA(103C8)cAURAMAZDAAa-2cHAmXSHAAYA",
  "THIYAmDAHYAAUSHa-2lBAGAdUUMISHmWORD DIVIDERmNUMBER ONEdTWOcENcWENTYgHUNDRED(10400).DESERET CAP",
  "ITAL$LONG IbEbAaHcOaOhSHORT IbEbAaHcOaOiAYcOWcWUcYEEdHbPEEdBEEdTEEdDEEdCHEEeJEEdKAYdGAYdEFcVEE",
  "dETHdTHEEeEScZEEdESHdZHEEeERbLbMbNaGdOIcEWrSMALL$LONG IbEbAaHcOaOhSHORT IbEbAaHcOaOiAYcOWcWUcY",
  "EEdHbPEEdBEEdTEEdDEEdCHEEeJEEdKAYdGAYdEFcVEEdETHdTHEEeEScZEEdESHdZHEEeERbLbMbNaGdOIcEW.SHAVIAN",
  "$PEEPeTOTdKICKeFEEdTHIGHfSObUREeCHURCHgYEAdHUNGeBIBdDEADeGAGdVOWdTHEYeZOOdMEASUREhJUDGEfWOEdHA",
  "-HAfLOLLeMIMEeIFcEGGdASHcDOdONcWOOLeOUTdAHcROAReNUNdEATdAGEdICEdUPcOAKcOZEdILdAWEcREdORcAIRdER",
  "RdARRAYfEARdIANdYEW.OSMANYA$ALEFeBAcTAcJAcXAcKHAdDEELeRAcSAbHIINfDHAdCAYNeGAcFAcQAAFeKAAFeLAAN",
  "eMIINeNUUNeWAWdHAcYAcAbEbIbObUbAAcEEcOO(104A0)jDIGIT ZEROeONEdTWOcHREEfFOURdIVEeSIXcEVENfEIGHT",
  "fNINE(104B0)qAGE CAPITAL$AaIaNcHcBRAdCHAdEHCHAeaINdHAbYAdIbKAcEHKAeKYAdLAcMAcNAcOaINdPAcEHPAeS",
  "AbHAdTAcEHTAeTSAdEHTSAfTSHAeDHAdUbWAcKHAdGHAdZAbHA(104D8)sSMALL$AaIaNcHcBRAdCHAdEHCHAeaINdHAbY",
  "AdIbKAcEHKAeKYAdLAcMAcNAcOaINdPAcEHPAeSAbHAdTAcEHTAeTSAdEHTSAfTSHAeDHAdUbWAcKHAdGHAdZAbHA(1050",
  "0).ELBASAN$AbBEcCEbHEdDEcNDEdDHEdEIbbFEcGEbJEdHEcIbJEcKEcLEbLEdMEcNEbAbJEdObPEcQEcREbREdSEbHEd",
  "TEbHEdUbVEcXEcYbZEbHEdGHEbAMMAgKHE(10530).CAUCASIAN ALBANIAN$ALTdBETdGIMdDATdEBcZARLeEYNdZHILe",
  "TASdCHAdYOWDeZHAdIRBdSHAdLANdINYAeXEYNeDYANeCARdJHOXeKARdLYITeHEYTeQAYdAORdCHOYcIcYAYeMAQdQARd",
  "NOWCeDZYAYfSHAKeJAYNeONcTYAYeFAMdDZAYeCHATePENdGHEYSfRATdSEYKeVEYZeTIWReSHOYeIWNdCYAWdAYNeYAYD",
  "ePIWReKIW(1056F)kCITATION|.VITHKUQI CAPITAL$AbBBEcEcCEbHEdDEbHEdEIbbFEcGA(1057C)cHAbHAdIaJEdJE",
  "cKAcLAbLAdMEcNEbJEdObPEcQAcRE(1058C)cSEbHEdTEbHEdUbVEcXE(10594)cYbZE(10597)rSMALL$AbBBEcEcCEbH",
  "EdDEbHEdEIbbFEcGA(105A3)cHAbHAdIaJEdJEcKAcLAbLAdMEcNEbJEdObPEcQAcRE(105B3)cSEbHEdTEbHEdUbVEcXE",
  "(105BB)cYbZE(10600).LINEAR A; AB001b2b3b4b5b6b7b8b9c10b1b3b6b7c20b1aFbMc2aFbMc3aMc4b6b7b8e028B",
  "eB029c30b1b4b7b8b9c40b1b4b5b6b7b8b9c50b1b3b4b5b6b7b8b9c60b1b5b6b7b9c70b3b4b6b7b8b9c80b1b2b5b6b",
  "7e100-102hB118c20e120BeB122b3c31AbBf131CeB164c71c80b8c91e301b2b3b4b5b6b7b8b9AbBbCd10b1b2b3AbBb",
  "Cc4b5b6b7b8b9c20b1b2b3b4b5b6b7b8b9c30b1b2b3b4b5b6b7b8b9c40b1b2b3b4b5b6b7b8b9c50b1b2b3b4b5b6b7b",
  "8b9c60b1b2b3b4b5b6b7b8b9c70b1d400-VASf1-VASf2-VASf3-VASf4-VASf5-VASf6-VASf7-VASf8-VASf9-VASg10",
  "-VASf1-VASf2-VASf3-VASf4-VASf5-VASf6-VASf7-VASf8-VASh501b2b3b4b5b6b8b9c10b1b2b3b5b6c20b1b3b4b5",
  "b6b7b8b9c30b1b2b4b5b6b7b8b9c40b1b2b5b7b8b9c50b1b2b3b4b5b6b7b9c63b4b5b6b8b9c70b1b2b3b4b5b6b7b8b",
  "9c80b1b2b3b4b5b6b7b8b9c91b2b4b5b6b8d600b1b2b3b4b6b8b9c10b1b2b3b4b5b6b7b8b9c20b1b2b3b4b6b7b8b9c",
  "34b7b8c40b2b3b4b5b6b8b9c51b2b3b4b5b6b7b8b9c60b1b2b3b4(10740)d701 Ad2 Bd3 Dd4 Ed5 Fd6 Hd7 Jd8 K",
  "d9 Lc-2 L2e3 L3e4 L4e6 L6h10 Wd1 Xd2 Yd3 OMEGAh4 ABBf5 BBe7 DDf26 EYYYh32 JE(10760)g800b1b2b3b",
  "4b5b6b7(10780).MODIFIER$SMALL CAPITAL AApUPERSCRIPT TRIANGULAR COLONqHALF TRIANGULAR COLON.MOD",
  "IFIER$SMALL AEcCAPITAL BjB%HOOK(10787)lDZ DIGRAPHa%RETROFLEX HOOKoCURLtEZH DIGRAPHl%TAILeHOOKa",
  "+TAILuREVERSED EkCLOSED REVERSED OPEN EwFENG DIGRAPHmRAMS HORNjCAPITAL GjG%HOOKlCAPITAL G%HOOK",
  "tH%STROKEnCAPITAL HjHENG%HOOKoDOTLESS J%STROKE+HOOK.MODIFIER$SMALL LS DIGRAPHjZ DIGRAPHj%BELTl",
  "CAPITAL L%BELTtL%RETROFLEX HOOK+BELT.MODIFIER$SMALL LEZHa%RETROFLEX HOOKyTURNED Ya%BELTsO%STRO",
  "KEnCAPITAL OEjLOSED OMEGAmQbTURNED R%LONG LEGa+RETROFLEX HOOK.MODIFIER$SMALL R%TAILeFISHHOOKpC",
  "APITAL RjTC DIGRAPH%CURLtS DIGRAPHa%RETROFLEX HOOK.MODIFIER$SMALL TESH DIGRAPHl%RETROFLEX HOOK",
  "vV%* HOOK(107B2)rCAPITAL YpGLOTTAL STOP%STROKEyREVERSED GLOTTAL STOP%STROKE.MODIFIER$BILABIA",
  "L CLICKoDENTAL CLICKmLATERAL CLICKnALVEOLAR CLICKoRETROFLEX CLICK%RETROFLEX HOOK.MODIFIER$SMAL",
  "L S%CURL(10800).CYPRIOT SYLLABLE AbEbIbObUbJA(10808)bO(1080A)cKAbEbIbObUcLAbEbIbObUcMAbEbIbObU",
  "cNAbEbIbObUcPAbEbIbObUcRAbEbIbObUcSAbEbIbObUcTAbEbIbObUcWAbEbIbO(10837)cXAbE(1083C)cZA(1083F)b",
  "O.IMPERIAL ARAMAIC$ALEPHfBETHeGIMELfDALETHgHEcWAWdZAYINfHETHeTETHeYODHeKAPHeLAMEDHgMEMdNUNdSAM",
  "EKHgAYINePEcSADHEfQOPHeRESHeSHINeTAW(10857)kSECTION;mNUMBER ONEdTWOcHREEeENcWENTYgONE HUNDREDh",
  "THOUSANDmTEN THOUSAND.PALMYRENE$ALEPHfBETHeGIMELfDALETHgHEcWAWdZAYINfHETHeTETHeYODHeKAPHeLAMED",
  "HgMEMdFINAL NUNjNUNdSAMEKHgAYINePEcSADHEfQOPHeRESHeSHINeTAWiFT-POINTING FLEURONv*-POINTING FLE",
  "URONwNUMBER ONEdTWOcHREEfFOURdIVEeTENcWENTY.NABATAEAN$FINAL ALEPHlALEPHfFINAL BETHkBETHeGIMELf",
  "DALETHgFINAL HEiHEcWAWdZAYINfHETHeTETHeFINAL YODHkYODHeFINAL KAPHkKAPHeFINAL LAMEDHmLAMEDHgFIN",
  "AL MEMjMEMdFINAL NUNjNUNdSAMEKHgAYINePEcSADHEfQOPHeRESHeFINAL SHINkSHINeTAW(108A7)kNUMBER ONEd",
  "TWOcHREEfFOURlCRUCIFORM NUMBER FOURvNUMBER FIVEeTENcWENTYgONE HUNDRED(108E0).HATRAN$ALEPHfBETH",
  "eGIMELfDALETH-RESHlHEcWAWdZAYNeHETHeTETHeYODHeKAPHeLAMEDHgMEMdNUNdSAMEKHgAYNdPEcSADHEfQOPH(108",
  "F4)eSHINeTAW(108FB)kNUMBER ONEdFIVEeTENcWENTYgONE HUNDRED.PHOENICIAN$ALFdBETdGAMLeDELTeHEcWAUd",
  "ZAIdHETdTETdYODdKAFdLAMDeMEMdNUNdSEMKeAINdPEcSADEeQOFdROSHeSHINeTAUkNUMBER ONEdTENcWENTYgONE H",
  "UNDREDlTWOcHREE(1091F)mWORD SEPARATOR.LYDIAN$AbBbGbDbEbVbIbYbKbLbMbNbObRbSScTbUbFbQbSbTTcANcEN",
  "cLYcNNcC(1093F)iTRIANGULAR|(10980).MEROITIC HIEROGLYPHIC$AbEbIbObYAcWAcBAa-2ePAcMAcNAa-2dEa-2e",
  "RAa-2eLAcKHAdHHAdSAa-2dEcKAcQAcTAa-2dEa-2dOcDAjSYMBOL VIDJa-2.MEROITIC CURSIVE$AbEbIbObYAcWAcB",
  "AcPAcMAcNAbEcRAcLAcKHAdHHAdSAcARCHAIC SAkSEcKAcQAcTAbEbOcDA(109BC)jFRACTION ELEVEN TWELFTHSpON",
  "E HALFrLOGOGRAM RMTdIMNmNUMBER ONEdTWOcHREEfFOURdIVEeSIXcEVENfEIGHTfNINEeTENcWENTYfHIRTYgFORTY",
  "eIFTYfSIXTYeEVENTY(109D2)hONE HUNDREDlTWO HUNDREDkHREE HUNDREDnFOUR HUNDREDlIVE HUNDREDmSIX HU",
  "NDREDkEVEN HUNDREDnEIGHT HUNDREDnNINE HUNDREDmONE THOUSANDmTWO THOUSANDlHREE THOUSANDoFOUR THO",
  "USANDmIVE THOUSANDnSIX THOUSANDlEVEN THOUSANDoEIGHT THOUSANDoNINE THOUSANDnTEN THOUSANDlWENT",
  "Y THOUSANDoHIRTY THOUSANDpFORTY THOUSANDnIFTY THOUSANDoSIXTY THOUSANDnEVENTY THOUSANDqEIGHTY T",
  "HOUSANDpNINETY THOUSANDpONE HUNDRED THOUSANDuTWO HUNDRED THOUSANDtHREE HUNDRED THOUSANDwFOUR H",
  "UNDRED THOUSANDuIVE HUNDRED THOUSANDvSIX HUNDRED THOUSANDtEVEN HUNDRED THOUSANDwEIGHT HUNDRE",
  "D THOUSANDwNINE HUNDRED THOUSAND.MEROITIC CURSIVE FRACTION ONE TWELFTHlTWO TWELFTHSlHREE TWELF",
  "THSoFOUR TWELFTHSmIVE TWELFTHSnSIX TWELFTHSlEVEN TWELFTHSoEIGHT TWELFTHSoNINE TWELFTHSnTEN TWE",
  "LFTHS.KHAROSHTHI$AiVOWEL; IbUbVOCALIC R(10A05)jEbO(10A0C)gLENGTH|rSIGN @ RING=rANUSVARAiVISARG",
  "AmLETTER KAbHAdGAbHA(10A15)dCAbHAdJA(10A19)cNYAdTTAbHAeDDAbHAeNNAdTAbHAdDAbHAdNAcPAbHAdBAbHAdM",
  "AcYAcRAcLAcVAcSHAcSAcAcZAcHAcKKAdTTTHAcAeVHA(10A38)kSIGN BAR<jCAUDAfDOT=(10A3F)oVIRAMAgDIGIT O",
  "NEdTWOcHREEfFOURkNUMBER TENcWENTYgONE HUNDREDhTHOUSANDtFRACTION ONE HALF(10A50)rPUNCTUATION DO",
  "TdSMALL CIRCLEmCIRCLEfRESCENT BARmMANGALAMiLOTUSfDANDAeOUBLE DANDAmLINES(10A60).OLD SOUTH ARAB",
  "IAN$HEcLAMEDHgHETHeMEMdQOPHeWAWdSHINeRESHeBETHeTAWdSATdKAPHeNUNdKHETHfSADHEdMEKHgFEcALEFdYNdDH",
  "ADHEgGIMELfDALETHgGHAYNfTETHeZAYNeDHALETHhYODHeTHAWcETHmNUMBER ONEdFIFTYjERIC INDICATOR.OLD NO",
  "RTH ARABIAN$HEHdLAMdHAHdMEEMeQAFdWAWdES-2eREHdBEHdTEHdES-1eKAFdNOONeKHAHeSADdES-3eFEHdALEFdINd",
  "DADdGEEMeDALdGHAINfTAHdZAINeTHALeYEHdTHEHeZAHkNUMBER ONEdTENcWENTY(10AC0).MANICHAEAN$ALEPHfBET",
  "HdHETHfGIMELeHIMELgDALETHgHEcWAWkSIGN UDhLETTER ZAYINeHAYINgJAYINeHAYINgHETHeTETHeYODHeKAPHeXA",
  "PHeKHAPHfLAMEDHgDHAMEDHhTHAMEDHhMEMdNUNdSAMEKHgAYINdAYINfPEcFEcSADHEfQOPHeXOPHeQHOPHfRESHeSHIN",
  "dSHINfTAWkABBREVIATION|<fBELOW(10AEB)xNUMBER ONEdFIVEeTENcWENTYgONE HUNDREDsPUNCTUATION STAReF",
  "LEURONh@ DOT WITHIN DOTtT WITHIN DOTldTWO DOTSiLINE FILLER(10B00).AVESTAN$AaAbObAOcNbANcEaEdEa",
  "EcOaOcIaIcUaUcKEcXEbYEcVEdGEbGEcHEdCEcJEcTEbHEdDEbHEdTTEdPEcFEcBEbHEdNGEbYEcVEdEbYEcNEdMEcHMEd",
  "YYEcEcVEcREcLEcSEcZEcSHEdZHEdSHYEdSHEeHE(10B39)jABBREVIATION|.TINY TWO DOTS OVER ONE DOT PUNCT",
  "UATION.SMALL TWO DOTS OVER ONE DOT PUNCTUATION.LARGE TWO DOTS OVER ONE DOT PUNCTUATION.LARGE O",
  "NE DOT OVER TWO DOTS PUNCTUATION.LARGE TWO RINGS OVER ONE RING PUNCTUATION.LARGE ONE RING OVE",
  "R TWO RINGS PUNCTUATION.INSCRIPTIONAL PARTHIAN$ALEPHfBETHeGIMELfDALETHgHEcWAWdZAYINfHETHeTETHe",
  "YODHeKAPHeLAMEDHgMEMdNUNdSAMEKHgAYINePEcSADHEfQOPHeRESHeSHINeTAW(10B58)kNUMBER ONEdTWOcHREEfFO",
  "UReTENcWENTYgONE HUNDREDhTHOUSAND.INSCRIPTIONAL PAHLAVI$ALEPHfBETHeGIMELfDALETHgHEcWAW-AYIN-RE",
  "SHnZAYINfHETHeTETHeYODHeKAPHeLAMEDHgMEM-QOPHiNUNdSAMEKHgPEcSADHEeHINeTAW(10B78)kNUMBER ONEdTWO",
  "cHREEfFOUReTENcWENTYgONE HUNDREDhTHOUSAND.PSALTER PAHLAVI$ALEPHfBETHeGIMELfDALETHgHEcWAW-AYIN-",
  "RESHnZAYINfHETHeYODHeKAPHeLAMEDHgMEM-QOPHiNUNdSAMEKHgPEcSADHEeHINeTAW(10B99)kSECTION|mTURNED S",
  "ECTION|tFOUR DOTS%CROSSfDOT(10BA9)sNUMBER ONEdTWOcHREEfFOUReTENcWENTYgONE HUNDRED(10C00).OLD T",
  "URKIC$ORKHON AiYENISEI AaEkORKHON IiYENISEI IbEjORKHON OaEjYENISEI OEkORKHON ABjYENISEI ABkORK",
  "HON AEBkYENISEI AEBlORKHON AGjYENISEI AGkORKHON AEGkYENISEI AEGlORKHON ADjYENISEI ADkORKHON AE",
  "DdEZjYENISEI EZkORKHON AYjYENISEI AYkORKHON AEYkYENISEI AEYlORKHON AEKkYENISEI AEKlORKHON OEKk",
  "YENISEI OEKlORKHON ALjYENISEI ALkORKHON AELdELTcMcANbENkYENISEI AENlORKHON ENTkYENISEI ENTlORK",
  "HON ENCkYENISEI ENClORKHON ENYkYENISEI ENYdANGlORKHON ENGkYENISEI AENGmORKHON EPcOPcICcECjYENI",
  "SEI ECkORKHON AQjYENISEI AQkORKHON IQjYENISEI IQkORKHON OQjYENISEI OQkORKHON ARjYENISEI ARkORK",
  "HON AERcSbEScSHkYENISEI ASHlORKHON ESHkYENISEI ESHlORKHON ATjYENISEI ATkORKHON AETkYENISEI AET",
  "lORKHON OTcBASH(10C80)zHUNGARIAN CAPITAL$AaAcEBcAMBdECbNCcCScDcANDdEbCLOSE EhEEbFbGaYcHcIaIcEJ",
  "bKcAKcUNKdELaYcMbNaYdOaOcNIKOLSBURG OEnRUDIMENTA OEmOEEdEPbMPcRcSHORT ERiESaZcTbNTcTYcCHdUaUcN",
  "IKOLSBURG UEnRUDIMENTA UEmEVbZaScNT-SHAPED;pUS(10CC0)rSMALL$AaAcEBcAMBdECbNCcCScDcANDdEbCLOS",
  "E EhEEbFbGaYcHcIaIcEJbKcAKcUNKdELaYcMbNaYdOaOcNIKOLSBURG OEnRUDIMENTA OEmOEEdEPbMPcRcSHORT ERi",
  "ESaZcTbNTcTYcCHdUaUcNIKOLSBURG UEnRUDIMENTA UEmEVbZaScNT-SHAPED;pUS(10CFA)pNUMBER ONEdFIVEeTEN",
  "dFIFTYfONE HUNDREDhTHOUSAND.HANIFI ROHINGYA$AbBAcPAcTAbTAdJAcCAcHAcKHAdFAcDAbDAdRAbRAdZAcSAbHA",
  "dKAcGAcLAcMAcNAcWAcKINNA WAiYAcKINNA YAiNGAcYAdVAjVOWEL AbIbUbEbOhMARK SAKINfNA KHONNAoSIGN HA",
  "RBAHAYiTAHALAeNAcSSI(10D30)kDIGIT ZEROeONEdTWOcHREEfFOURdIVEeSIXcEVENfEIGHTfNINE(10E60).RUMI D",
  "IGIT ONEdTWOcHREEfFOURdIVEeSIXcEVENfEIGHTfNINEkNUMBER TENcWENTYfHIRTYgFORTYeIFTYfSIXTYeEVENTYh",
  "EIGHTYgNINETYgONE HUNDREDlTWO HUNDREDkHREE HUNDREDnFOUR HUNDREDlIVE HUNDREDmSIX HUNDREDkEVEN H",
  "UNDREDnEIGHT HUNDREDnNINE HUNDREDtFRACTION ONE HALFeQUARTERhTHIRDjTWO THIRDS(10E80).YEZIDI$ELI",
  "FeBEcPEbHEdTHEdSEcCIMcHIMcHIMfHHAdXAcDALdZALdRAbHAdZAcJAcSINcHINdADdDADdTAcZEcEYNdXHEYNfFAcVA",
  "a ALTERNATE&rQAFdKAFcHAFeGAFdLAMdMIMdNUNdUMcWAWdOWcEWcHAYdYOTdET(10EAB)jCOMBINING HAMZA|kMADDA",
  "|uHYPHENATION|(10EB0).YEZIDI$LAM%DOT<sYOT%CIRCUMFLEX<(10F00).OLD SOGDIAN$ALEPHfFINAL ALEPHlBET",
  "HeFINAL BETHkGIMELfHEcFINAL HEiWAWdZAYINfHETHeYODHeKAPHeLAMEDHgMEMdNUNdFINAL NUNa%,TAIL.OLD SO",
  "GDIAN$SAMEKHgAYINdLTERNATE AYINoPEcSADHEfFINAL SADHEa%,TAIL.OLD SOGDIAN$RESH-AYIN-DALETHqSHINe",
  "TAWdFINAL TAWa%,TAIL.OLD SOGDIAN NUMBER ONEdTWOcHREEfFOURdIVEeTENcWENTYfHIRTYgONE HUNDREDsFRAC",
  "TION ONE HALFrLIGATURE AYIN-DALETH(10F30).SOGDIAN$ALEPHfBETHeGIMELfHEcWAWdZAYINfHETHeYODHeKAPH",
  "eLAMEDHgMEMdNUNdSAMEKHgAYINePEcSADHEfRESH-AYINjSHINeTAWdFETHeLESHlINDEPENDENT SHINqCOMBINING D",
  "OT=jTWO DOTS=oDOT<jTWO DOTS<oCURVE<fBELOWlHOOK<fBELOWkLONG HOOK=pRESH=kSTROKE=wNUMBER ONEdTENc",
  "WENTYgONE HUNDREDsPUNCTUATION TWO ,BARSa%DOTS.SOGDIAN PUNCTUATION CIRCLE%DOTpTWO CIRCLES%DOTSv",
  "HALF CIRCLE%DOT(10F70).OLD UYGHUR$ALEPHfBETHeGIMEL-HETHkWAWdZAYINfFINAL HETHkYODHeKAPHeLAMEDHg",
  "MEMdNUNdSAMEKHgPEcSADHEfRESHeSHINeTAWdLESHlCOMBINING DOT<fBELOWjTWO DOTS<fBELOWyPUNCTUATION BA",
  "RdTWO BARSeDOTSiFOUR DOTS(10FB0).CHORASMIAN$ALEPHfSMALL ALEPHlBETHeGIMELfDALETHgHEcWAWdCURLE",
  "D WAWkZAYINfHETHeYODHeKAPHeLAMEDHgMEMdNUNdSAMEKHgAYINePEcRESHeSHINeTAWkNUMBER ONEdTWOcHREEfFOU",
  "ReTENcWENTYgONE HUNDRED(10FE0).ELYMAIC$ALEPHfBETHeGIMELfDALETHgHEcWAWdZAYINfHETHeTETHeYODHeKAP",
  "HeLAMEDHgMEMdNUNdSAMEKHgAYINePEcSADHEfQOPHeRESHeSHINeTAWjIGATURE ZAYIN-YODH(11000).BRAHMI; CAN",
  "DRABINDUlANUSVARAiVISARGAhJIHVAMULIYAlUPADHMANIYA.BRAHMI$AaAcIaIcUaUcVOCALIC RaRcLaLkEbAIcObAU",
  "cKAbHAdGAbHAdNGAdCAbHAdJAbHAdNYAdTTAbHAeDDAbHAeNNAdTAbHAdDAbHAdNAcPAbHAdBAbHAdMAcYAcRAcLAcVAcS",
  "HAcSAcAcHAcLLAdOLD TAMIL LLLAeRRAdNNNAvVOWEL; AAcBHATTIPROLU AAoIaIcUaUcVOCALIC RaRcLaLkEbAIcO",
  "bAUmIRAMAgDANDAeOUBLE DANDAmPUNCTUATION DOTbUBLE DOTkLINEeCRESCENT BARmLOTUS(11052)rNUMBER ONE",
  "dTWOcHREEfFOURdIVEeSIXcEVENfEIGHTfNINEeTENcWENTYfHIRTYgFORTYeIFTYfSIXTYeEVENTYhEIGHTYgNINETYgO",
  "NE HUNDREDhTHOUSANDtDIGIT ZEROeONEdTWOcHREEfFOURdIVEeSIXcEVENfEIGHTfNINEkSIGN OLD TAMIL VIRAMA",
  ".BRAHMI$OLD TAMIL SHORT EbOyVOWEL; OLD TAMIL SHORT EbO.BRAHMI$OLD TAMIL LLA(1107F)uNUMBER JOIN",
  "ER.KAITHI; CANDRABINDUlANUSVARAiVISARGA.KAITHI$AaAcIaIcUaUcEbAIcObAUcKAbHAdGAbHAdNGAdCAbHAdJAb",
  "HAdNYAdTTAbHAeDDAbDHAdHAeRHAdNNAdTAbHAdDAbHAdNAcPAbHAdBAbHAdMAcYAcRAcLAcVAcSHAcSAcAcHAjVOWEL",
  "; AAcIaIcUaUcEbAIcObAUnSIGN VIRAMAgNUKTAkABBREVIATION;rENUMERATION;qNUMBER;lSECTION|m@ SECTION",
  "|sANDAeOUBLE DANDAmVOWEL; VOCALIC R(110CD)uNUMBER;<(110D0).SORA SOMPENG$SAHdTAHdBAHdCAHdDAHdGA",
  "HdMAHdNGAHeLAHdNAHdVAHdPAHdYAHdRAHdHAHdKAHdJAHdNYAHeAHcEEHdIHcUHcOHcEHcMAE(110F0)kDIGIT ZEROeO",
  "NEdTWOcHREEfFOURdIVEeSIXcEVENfEIGHTfNINE(11100).CHAKMA; CANDRABINDUlANUSVARAiVISARGA.CHAKMA$AA",
  "cIbUbEbKAAcHAAeGAAcHAAeNGAAeCAAcHAAeJAAcHAAeNYAAeTTAAcHAAfDDAAcHAAfNNAAeTAAcHAAeDAAcHAAeNAAdPA",
  "AcHAAeBAAcHAAeMAAdYYAAdAAdRAAdLAAdWAAdSAAdHAAkVOWEL; AbIaIcUaUcEbAIcObAUcOInO|gAU|hVIRAMAgMAAY",
  "YAA(11136)hDIGIT ZEROeONEdTWOcHREEfFOURdIVEeSIXcEVENfEIGHTfNINEkSECTION|mDANDAeOUBLE DANDAmQUE",
  "STION|.CHAKMA$LHAAlVOWEL; AAcEI.CHAKMA$VAA(11150).MAHAJANI$AbIbUbEbObKAbHAdGAbHAdCAbHAdJAbHAdN",
  "YAdTTAbHAeDDAbHAeNNAdTAbHAdDAbHAdNAcPAbHAdBAbHAdMAcRAcLAcVAcSAcHAcRRAkSIGN NUKTAkABBREVIATION;",
  "rSECTION|mLIGATURE SHRI(11180).SHARADA; CANDRABINDUlANUSVARAiVISARGAmLETTER AaAcIaIcUaUcVOCALI",
  "C RaRcLaLkEbAIcObAUcKAbHAdGAbHAdNGAdCAbHAdJAbHAdNYAdTTAbHAeDDAbHAeNNAdTAbHAdDAbHAdNAcPAbHAdBAb",
  "HAdMAcYAcRAcLAbLAdVAcSHAcSAcAcHAjVOWEL; AAcIaIcUaUcVOCALIC RaRcLaLkEbAIcObAUnSIGN VIRAMAgAVAGR",
  "AHAiJIHVAMULIYAlUPADHMANIYAqOMcDANDAeOUBLE DANDAmABBREVIATION;rSEPARATORiANDHI|kIGN NUKTAkVOWE",
  "L MODIFIER|tEXTRA SHORT VOWEL|wSUTRA|kVOWEL; PRISHTHAMATRA E.SHARADA; INVERTED CANDRABINDUzDIG",
  "IT ZEROeONEdTWOcHREEfFOURdIVEeSIXcEVENfEIGHTfNINEkEKAMeSIGN SIDDHAMmHEADSTROKEkCONTINUATION;rS",
  "ECTION|-1b2(111E1)vINHALA ARCHAIC DIGIT ONEdTWOcHREEfFOURdIVEeSIXcEVENfEIGHTfNINEkNUMBER TENcW",
  "ENTYfHIRTYgFORTYeIFTYfSIXTYeEVENTYhEIGHTYgNINETYgONE HUNDREDhTHOUSAND(11200).KHOJKI$AaAcIbUbEb",
  "AIcObAUcKAbHAdGAbGAcHAdNGAdCAbHAdJAbJA(11213)dNYAdTTAbHAeDDAbHAeNNAdTAbHAdDAbDDAdHAdNAcPAbHAdB",
  "AbBAcHAdMAcYAcRAcLAcVAcSAcHAcLLAkVOWEL; AAcIaIcUbEbAIcObAUnSIGN ANUSVARAiVIRAMAgNUKTAfSHADDAlD",
  "ANDAeOUBLE DANDAmWORD SEPARATORoSECTION|m@ SECTION|tABBREVIATION;rSIGN SUKUN(11280).MULTANI$Ab",
  "IbUbEbKAbHAdGA(11288)bHA(1128A)dCAbHAdJAbJA(1128F)dNYAdTTAbHAeDDAbDAcHAeNNAdTAbHAdDAbHAdNAcPAb",
  "HAdBA(1129F)bHAdMAcYAcRAcLAcVAcSAcHAcRRAcHAkSECTION|(112B0).KHUDAWADI$AaAcIaIcUaUcEbAIcObAUcKA",
  "bHAdGAbGAcHAdNGAdCAbHAdJAbJAcHAdNYAdTTAbHAeDDAbDAeRRAdDDHAeNNAdTAbHAdDAbHAdNAcPAbHAdBAbBAcHAdM",
  "AcYAcRAcLAcVAcSHAcAcHAjSIGN ANUSVARAnVOWEL; AAcIaIcUaUcEbAIcObAUnSIGN NUKTAfVIRAMA(112F0)lDIGI",
  "T ZEROeONEdTWOcHREEfFOURdIVEeSIXcEVENfEIGHTfNINE(11300).GRANTHA; COMBINING ANUSVARA<xANDRABIND",
  "UlANUSVARAiVISARGA(11305)mLETTER AaAcIaIcUaUcVOCALIC RbL(1130F)jEEcAI(11313)cOOcAUcKAbHAdGAbHA",
  "dNGAdCAbHAdJAbHAdNYAdTTAbHAeDDAbHAeNNAdTAbHAdDAbHAdNA(1132A)cPAbHAdBAbHAdMAcYAcRA(11332)cLAbLA",
  "(11335)dVAcSHAcSAcAcHA(1133B).COMBINING BINDU=.GRANTHA; NUKTAfAVAGRAHAnVOWEL; AAcIaIcUaUcVOCAL",
  "IC RaR(11347)kEEcAI(1134B)cOOcAUnSIGN VIRAMA(11350)lOM(11357)cAU LENGTH|(1135D)oSIGN PLUTAkLET",
  "TER VEDIC ANUSVARAi@ ANUSVARAuOCALIC RRcLLrVOWEL; VOCALIC LaL(11366).COMBINING GRANTHA DIGIT Z",
  "EROeONEdTWOcHREEfFOURdIVEeSIX(11370)jLETTER AbKAcNAcVIcPA(11400).NEWA$AaAcIaIcUaUcVOCALIC RaRc",
  "LaLkEbAIcObAUcKAbHAdGAbHAdNGAbHAeCAbHAdJAbHAdNYAbHAeTTAbHAeDDAbHAeNNAdTAbHAdDAbHAdNAbHAdPAbHAd",
  "BAbHAdMAbHAdYAcRAbHAdLAbHAdWAcSHAcSAcAcHAjVOWEL; AAcIaIcUaUcVOCALIC RaRcLaLkEbAIcObAUnSIGN VIR",
  "AMAgCANDRABINDUlANUSVARAiVISARGAhNUKTAfAVAGRAHAiFINAL ANUSVARAtOMcSIDDHIgDANDAeOUBLE DANDAmCOM",
  "MAfGAP FILLERkABBREVIATION;rDIGIT ZEROeONEdTWOcHREEfFOURdIVEeSIXcEVENfEIGHTfNINEjOUBLE COMMAmP",
  "LACEHOLDER|(1145D)qINSERTION;oSANDHI|.NEWA$VEDIC ANUSVARAvSIGN JIHVAMULIYAlUPADHMANIYA(11480).",
  "TIRHUTA ANJIeLETTER AaAcIaIcUaUcVOCALIC RaRcLaLkEbAIcObAUcKAbHAdGAbHAdNGAdCAbHAdJAbHAdNYAdTTAb",
  "HAeDDAbHAeNNAdTAbHAdDAbHAdNAcPAbHAdBAbHAdMAcYAcRAcLAcVAcSHAcSAcAcHAjVOWEL; AAcIaIcUaUcVOCALI",
  "C RaRcLaLkEbSHORT EhAIcObSHORT OhAUnSIGN CANDRABINDUlANUSVARAiVISARGAfRAMAgNUKTAfAVAGRAHAnGVAN",
  "GfABBREVIATION;rOM(114D0)cDIGIT ZEROeONEdTWOcHREEfFOURdIVEeSIXcEVENfEIGHTfNINE(11580).SIDDHAM$",
  "AaAcIaIcUaUcVOCALIC RaRcLaLkEbAIcObAUcKAbHAdGAbHAdNGAdCAbHAdJAbHAdNYAdTTAbHAeDDAbHAeNNAdTAbHAd",
  "DAbHAdNAcPAbHAdBAbHAdMAcYAcRAcLAcVAcSHAcSAcAcHAjVOWEL; AAcIaIcUaUcVOCALIC RaR(115B8)kEbAIcObAU",
  "nSIGN CANDRABINDUlANUSVARAiVISARGAfRAMAgNUKTAfSIDDHAMmDANDAeOUBLE DANDAmSEPARATOR DOTdBARnREPE",
  "TITION|-1b2b3rEND OF TEXT|qSECTION|%TRIDENT+U-SHAPED ORNAMENTSsDOTTED CRESCENTS.SIDDHAM SECTIO",
  "N|%RAYS+DOTTED CRESCENTSj@ CRESCENTSqTRIPLE CRESCENTS.SIDDHAM SECTION| @ RINGa%RAYSvWITH @ CRE",
  "SCENTSqTRIPLE CRESCENTSqQUADRUPLE CRESCENTStSEPTUPLE CRESCENTSsCIRCLES+RAYSeTWO ENCLOSURESoFOU",
  "R ENCLOSURES.SIDDHAM$THREE-CIRCLE ALTERNATE IxWO-CIRCLE ALTERNATE IaIxALTERNATE UsVOWEL; ALTER",
  "NATE UaU(11600).MODI$AaAcIaIcUaUcVOCALIC RaRcLaLkEbAIcObAUcKAbHAdGAbHAdNGAdCAbHAdJAbHAdNYAdTTA",
  "bHAeDDAbHAeNNAdTAbHAdDAbHAdNAcPAbHAdBAbHAdMAcYAcRAcLAcVAcSHAcSAcAcHAcLLAkVOWEL; AAcIaIcUaUcVOC",
  "ALIC RaRcLaLkEbAIcObAUnSIGN ANUSVARAiVISARGAfRAMAgARDHACANDRAqDANDAeOUBLE DANDAmABBREVIATION;r",
  "SIGN HUVA(11650)jDIGIT ZEROeONEdTWOcHREEfFOURdIVEeSIXcEVENfEIGHTfNINE(11660)nNGOLIAN BIRGA%ORN",
  "AMENTtROTATED BIRGAn@ BIRGA%ORNAMENT.MONGOLIAN TRIPLE BIRGA%ORNAMENT.MONGOLIAN BIRGA%@ ORNAMEN",
  "T.MONGOLIAN ROTATED BIRGA%ORNAMENTi@ ORNAMENT.MONGOLIAN INVERTED BIRGAa%@ ORNAMENT.MONGOLIAN S",
  "WIRL BIRGAa%ORNAMENTi@ ORNAMENT.MONGOLIAN TURNED SWIRL BIRGA%@ ORNAMENT(11680).TAKRI$AaAcIaIcU",
  "aUcEbAIcObAUcKAbHAdGAbHAdNGAdCAbHAdJAbHAdNYAdTTAbHAeDDAbHAeNNAdTAbHAdDAbHAdNAcPAbHAdBAbHAdMAcY",
  "AcRAcLAcVAcSHAcAcHAcRRAkSIGN ANUSVARAiVISARGAmVOWEL; AAcIaIcUaUcEbAIcObAUnSIGN VIRAMAgNUKTA.TA",
  "KRI$ARCHAIC KHAsABBREVIATION;(116C0)rDIGIT ZEROeONEdTWOcHREEfFOURdIVEeSIXcEVENfEIGHTfNINE(1170",
  "0).AHOM$KAbHAdNGAcAcTAcALTERNATE TAmPAbHAdBAcMAcJAcCHAdTHAdRAcLAcSAcNYAdHAcAbDAbHAdGAcALTERNAT",
  "E GAmGHAdBHAdJHAdALTERNATE BA(1171D)tCONSONANT; MEDIAL LAcRAcLIGATING RA.AHOM VOWEL; AaAcIaIcU",
  "aUcEbAWcObAIbMnSIGN KILLER(11730)lDIGIT ZEROeONEdTWOcHREEfFOURdIVEeSIXcEVENfEIGHTfNINEkNUMBE",
  "R TENcWENTYnSIGN SMALL SECTIONmECTIONhRULAI.AHOM_ VI.AHOM$CAcTTAbHAeDDAbHAeNNAdLLA(11800).DOGR",
  "A$AaAcIaIcUaUcEbAIcObAUcKAbHAdGAbHAdNGAdCAbHAdJAbHAdNYAdTTAbHAeDDAbHAeNNAdTAbHAdDAbHAdNAcPAbHA",
  "dBAbHAdMAcYAcRAcLAcVAcSHAcSAcAcHAcRRAkVOWEL; AAcIaIcUaUcVOCALIC RaRkEbAIcObAUnSIGN ANUSVARAiVI",
  "SARGAfRAMAgNUKTAkABBREVIATION;(118A0).WARANG CITI CAPITAL$NGAAeAbWIcYUbAbOcIIcUUcEbObANGdGAcKO",
  "cENYdYUJdUCcENNdODDdTTEdNUNGeDAcATbMcBUcPUcHIYOdOLOcRRdARdSSUUdIIdVIYOtSMALL$NGAAeAbWIcYUbAbOc",
  "IIcUUcEbObANGdGAcKOcENYdYUJdUCcENNdODDdTTEdNUNGeDAcATbMcBUcPUcHIYOdOLOcRRdARdSSUUdIIdVIYOrDIGI",
  "T ZEROeONEdTWOcHREEfFOURdIVEeSIXcEVENfEIGHTfNINEkNUMBER TENcWENTYfHIRTYgFORTYeIFTYfSIXTYeEVENT",
  "YhEIGHTYgNINETY(118FF)nOM.DIVES AKURU$AaAcIaIcUaUcE(11909)bO(1190C)bKAbHAdGAbHAdNGAdCAbHAdJA(1",
  "1915)cNYAdTTA(11918)dDDAbHAeNNAdTAbHAdDAbHAdNAcPAbHAdBAbHAdMAcYAbYAdRAcLAcVAcSHAcSAcAcHAcLLAdZ",
  "AjVOWEL; AAcIaIcUaUcE(11937)bAIcO(1193B)mSIGN ANUSVARAiCANDRABINDUlHALANTAmVIRAMAgPREFIXED NAS",
  "AL;tMEDIAL YAjINITIAL RAkMEDIAL RAjSIGN NUKTAk@ DANDAmGAP FILLERkEND OF TEXT|(11950)qDIGIT ZER",
  "OeONEdTWOcHREEfFOURdIVEeSIXcEVENfEIGHTfNINE(119A0).NANDINAGARI$AaAcIaIcUaUcVOCALIC RaR(119AA)k",
  "EbAIcObAUcKAbHAdGAbHAdNGAdCAbHAdJAbHAdNYAdTTAbHAeDDAbHAeNNAdTAbHAdDAbHAdNAcPAbHAdBAbHAdMAcYAcR",
  "AcLAcVAcSHAcSAcAcHAcLLAdRRAkVOWEL; AAcIaIcUaUcVOCALIC RaR(119DA)kEbAIcObAUnSIGN ANUSVARAiVISAR",
  "GAfRAMAgAVAGRAHAiSIDDHAMmHEADSTROKEkVOWEL; PRISHTHAMATRA E(11A00).ZANABAZAR SQUARE$AiVOWEL; Ib",
  "UEbbEbOEbbAIbUcREVERSED IpLENGTH|rLETTER KAbHAdGAbHAdNGAdCAbHAdJAcNYAdTTAbHAeDDAbHAeNNAdTAbHAd",
  "DAbHAdNAcPAbHAdBAbHAdMAcTSAbHAeDZAbHAeZHAcAc-AcYAcRAcLAcVAcSHAcSAcAcHAcKSSAlFINAL CONSONANT|uS",
  "IGN VIRAMAgCANDRABINDUa%ORNAMENTt%ORNAMENTuANUSVARAiVISARGAmCLUSTER-INITIAL$RArFINAL$YAcRAcLAc",
  "VAxINITIAL HEAD|rCLOSING HEAD|rMARK TSHEGfSHADe@ SHADlLONG TSHEGpINITIAL @-LINED HEAD|.ZANABAZ",
  "AR SQUARE CLOSING @-LINED HEAD|.ZANABAZAR SQUARE SUBJOINER(11A50).SOYOMBO$AiVOWEL; IbUEbbEbOaE",
  "cAIbUcVOCALIC RbLoLENGTH|rLETTER KAbHAdGAbHAdNGAdCAbHAdJAbHAdNYAdTTAbHAeDDAbHAeNNAdTAbHAdDAbHA",
  "dNAcPAbHAdBAbHAdMAcTSAbHAeDZAdZHAcAc-AcYAcRAcLAcVAcSHAcSAcAcHAcKSSAlSIGN JIHVAMULIYAlUPADHMANI",
  "YAqCLUSTER-INITIAL$RAcLAcSHAcAzFINAL CONSONANT; GbKbNGcDbNbBbMbRbLbSHbb-AxSIGN ANUSVARAiVISARG",
  "AmGEMINATION|pSUBJOINERjMARK TSHEGfSHADe@ SHADlPLUTAkHEAD|%MOON+SUN+TRIPLE FLAMEmFLAMEk.SOYOMB",
  "O TERMINAL|-1b2(11AB0).CANADIAN SYLLABICS NATTILIK HIaIcOaOcAaAdSHRIaIcOaOcAaAoSPEbIbObA.PAU C",
  "IN HAU$PAcKAcLAcMAcDAcZAcVAcNGAdHAcGAcKHAdSAcBAcCAcTAbHAdNAcPHAdRAcFAcCHAdAbEbIbObUaAcIAcFINA",
  "L PbKbTbMbNbLbWbNGcYoRISING TONE LONGflSANDHI GLOTTAL STOPtRISING TONE LONG FINALkFINALrSANDH",
  "I GLOTTAL STOP FINALsTONE LONGfa LONG FINALkFINALrMID-LEVEL TONEoGLOTTAL STOP VARIANTuMID-LEVE",
  "L TONE LONG FINALkFINALuLOW-FALLING TONE LONGfqGLOTTAL STOPmLOW-FALLING TONE LONG FINALkFINALw",
  "GLOTTAL STOP FINAL(11C00).BHAIKSUKI$AaAcIaIcUaUcVOCALIC RaRcL(11C0A)jEbAIcObAUcKAbHAdGAbHAdNGA",
  "dCAbHAdJAbHAdNYAdTTAbHAeDDAbHAeNNAdTAbHAdDAbHAdNAcPAbHAdBAbHAdMAcYAcRAcLAcVAcSHAcSAcAcHAjVOWEL",
  "; AAcIaIcUaUcVOCALIC RaRcL(11C38)jEbAIcObAUnSIGN CANDRABINDUlANUSVARAiVISARGAfRAMAgAVAGRAHAnDA",
  "NDAeOUBLE DANDAmWORD SEPARATORoGAP FILLER-1b2(11C50)mDIGIT ZEROeONEdTWOcHREEfFOURdIVEeSIXcEVEN",
  "fEIGHTfNINEkNUMBER ONEdTWOcHREEfFOURdIVEeSIXcEVENfEIGHTfNINEeTENcWENTYfHIRTYgFORTYeIFTYfSIXTYe",
  "EVENTYhEIGHTYgNINETYnHUNDREDS UNIT|(11C70).MARCHEN HEAD|jMARK SHADjLETTER KAbHAdGAcNGAdCAbHAdJ",
  "AcNYAdTAbHAdDAcNAcPAbHAdBAcMAcTSAbHAeDZAdWAcZHAcAc-AcYAcRAcLAcSHAcAcHAcA(11C92)iSUBJOINED$KAbH",
  "AdGAcNGAdCAbHAdJAcNYAdTAbHAdDAcNAcPAbHAdBAcMAcTSAbHAeDZAdWAcZHAcA(11CA9)cYAcRAcLAcSHAcAcHAcAsV",
  "OWEL; AAcIbUbEbOmSIGN ANUSVARAiCANDRABINDU(11D00)wSARAM GONDI$AaAcIaIcUaUcE(11D08)bAIcO(11D0B)",
  "bAUcKAbHAdGAbHAdNGAdCAbHAdJAbHAdNYAdTTAbHAeDDAbHAeNNAdTAbHAdDAbHAdNAcPAbHAdBAbHAdMAcYAcRAcLAcV",
  "AcSHAcSAcAcHAcLLAdKSSAeJNYAeTRAkVOWEL; AAcIaIcUaUcVOCALIC R(11D3A)jE(11D3C)bAIcO(11D3F)bAUnSIG",
  "N ANUSVARAiVISARGAhNUKTAfCANDRAgHALANTAmVIRAMAgREPHAeA-KARA(11D50)hDIGIT ZEROeONEdTWOcHREEfFOU",
  "RdIVEeSIXcEVENfEIGHTfNINE(11D60).GUNJALA GONDI$AaAcIaIcUaU(11D67)cEEcAI(11D6A)cOOcAUcYAcVAcBAb",
  "HAdMAcKAbHAdTAbHAdLAcGAbHAdDAbHAdNAcCAbHAdTTAbHAeLLAdJAbHAdDDAbHAeNGAdPAbHAdHAcRAcSAjVOWEL; AA",
  "cIaIcUaU(11D90)cEEcAI(11D93)cOOcAUnSIGN ANUSVARAiVISARGAmVIRAMAgOM(11DA0)cDIGIT ZEROeONEdTWOcH",
  "REEfFOURdIVEeSIXcEVENfEIGHTfNINE(11EE0).MAKASAR$KAcGAcNGAdPAcBAcMAcTAcDAcNAcCAcJAcNYAdYAcRAcLA",
  "cVAcSAcAiANGKAfVOWEL; IbUbEbOmPASSIMBANGkEND OF SECTION(11FB0).LISU$YHA(11FC0).TAMIL FRACTIO",
  "N ONE THREE-HUNDRED-AND-TWENTIETH.TAMIL FRACTION ONE ONE-HUNDRED-AND-SIXTIETHyEIGHTIETHjSIXTY-",
  "FOURTHmFORTIETHiTHIRTY-SECONDrTHREE EIGHTIETHSkSIXTY-FOURTHStONE TWENTIETHjSIXTEENTH-1b2lTENTH",
  "fEIGHTHkTHREE TWENTIETHSkSIXTEENTHSqONE FIFTHfQUARTERhHALF-1b2kTHREE QUARTERSoDOWNSCALING FACT",
  "OR KIIZH.TAMIL; NELdCEVITUgAAZHAAKKUjUZHAKKUhMUUVUZHAKKUlKURUNIgPATHAKKUiMUKKURUNIjKAACUfPANAM",
  "eONdVARAAKANiPAARAMgKUZHIfVELIjWET CULTIVATION;uDRY CULTIVATION;uLAND;jSALT PAN;nTRADITIONAL C",
  "REDIT;lNUMBER;xCURRENT;mAND ODD;mSPENT;kTOTAL;kIN POSSESSION;sSTARTING FROM;rIGN MUTHALIYAjVAK",
  "AIYARAA(11FFF)pPUNCTUATION END OF TEXT.CUNEIFORM; Aa TIMES AbBADdGAN2 TENUjHAcIGIdLAGAR GUNUkM",
  "USHeSAGk2bBa TIMES ASH2eDUN3 GUNUjGALbN2 TENUjHAcIGI GUNUhMINeLAGABfSHESHfU PLUS U PLUS UvGUNU",
  "f2a TIMES BALAGfGAN2 TENUjME PLUS ENkSHA3eTAK4nDbKa TIMES ERIN2fSHITA PLUS GISHxLa TIMES ALcDI",
  "M2eGISHeHAcKAD3dIcSHEdUSHkANcEPHeMARa TIMES SHEnNa OVER ANhTHREE TIMESlPLUS NAGA OPPOSING AN P",
  "LUS NAGAvSQUAREDsSHEePINdRADa TIMES KURmKABeSAL2dHa ZIDA TENUjKABA TENUjOVER ASH TUG2 OVER TUG",
  "2 TUG2 OVER TUG2 PAP.CUNEIFORM; ASH OVER ASH OVER ASHa CROSSING ASH OVER ASH OVER ASH.CUNEIFOR",
  "M; ASH2bGABgBAaDbG3cHAR2eLa OVER BALjAGdRaA2eIa TIMES AbGARdIGI GUNUqUa OVER BU ABcUNkCROSSIN",
  "G BUmLUGa OVER BULUGoRa2eDAaGa KISIM5 TIMES A PLUS MASHkMAReBALAGeIcGAa PLUS MASHlIaR2dUDdHAcI",
  "Ra PLUS LUkKAKdLAbUa PLUS MASH2lMdNEcPAP PLUS PAPmSIcTAK4eU2 PLUS GIR2lSHsMbRaA3b4eIaBbMa TIME",
  "S SHEk2cNa KASKAL U GUNU DISHuSHdUa OVER DUhGUNUeSHESHIGiBa TIMES ESH2l2cGaUDdHbNa3a GUNUa GUN",
  "Ul4cR2eEa TIMES PAPjOVER E NUN OVER NUNu2a TIMES A PLUS HA PLUS DArGARdMIcSALcHEdUjDINdGIRdLbN",
  "a TIMES GAN2a TENUjMEiCROSSING ENlOPPOSING ENlSQUAREDjRENcIN2eSH2dZENa TIMES Aa PLUS LALa TIME",
  "S LALtNcBADdDUN3 GUNUa GUNUoHAa GUNUhIGI GUNUiKASKALa SQUAREDnU3dLAaL TIMES LALmIbUcU2bDnGAa G",
  "UNUf2a TIMES A PLUS DA PLUS HAkHAcIGIjB2 TENU PLUS TABqNbSHa2 PLUS GALnBADbR PLUS RAkURa PLU",
  "S RAlDAbIaM TIMES SHEmUBdELa PLUS LAjNa TIMES GAN2 TENUsGAN2 TENUhRcIa4a PLUS AiR2 PLUS SUmH",
  "A PLUS LU PLUS ESH2sLa PLUS LAkI PLUS LIjUB2eIGI GUNUhSH PLUS HU PLUS ASHuKAKbSKALfIDa PLUS LA",
  "LlU3 PLUS ANlLAcME PLUS ENjIcNUNa OVER NUNmPAcSALbRcHEa PLUS TURkIDdUMdTAK4eUaDa PLUS DUqOVE",
  "R GA2kBAa CROSSING GABAqDa OVER GAD GAR OVER GARxLa GAD OVER GAD GAR OVER GAR.CUNEIFORM; GALAM",
  "dMbNa2a TENUeOVER GAN2jCROSSING GAN2qRa3cSHANfESHTINa TIMES KURqIa TIMES EbUhCROSSING GIm4a OV",
  "ER GI4iCROSSING GI4oDIMdR2a GUNUg3a TIMES A PLUS IGIkGAN2 TENUjIGIdLU PLUS IGIlPAlSALcHa CROSS",
  "ING GISHnTIMES BADdTAK4jENUiUa CROSSING GUm2a TIMES KAKa TIMES IGI GUNUsNUNdSAL PLUS TUG2tGUNU",
  "gDa TIMES A PLUS KURkKURjOVER GUD LUGALqLbMa TIMES SHElRa7bUNbSHgHAa TENUeGUNUfLcIa TIMES ASHa",
  "2eBADdDISHeGADdKINdNUNdSHEdUjUaB2a TIMES ANcHALdKASKALgLISHeUDlL2eIa AcBbDIMa OVER IDIM BURdSQ",
  "UAREDvGaIa DIBdRIcOVER IGI SHIR OVER SHIR UD OVER UD.CUNEIFORM; IGI GUNUhLa TIMES GAN2 TENUq2c",
  "Ma TIMES TAK4kCROSSING IMlOPPOSING IMlSQUAREDiINdNbRbSHdKAa TIMES AaDa PLUS KU3kSH2eBADbLAGdRc",
  "IcERIN2eSH2eGAaLbN2 TENUhRa PLUS SHA3 PLUS AtIaR2cSH PLUS SARiCROSSING GISHrUaR7eIGIcMcKAKcIaD",
  "dLIbUcMEa PLUS DUcGIcTEjIa PLUS NUNUZnNEbUNdPIcRUcSAaRcHAbEbIDcUcIGcUHURfTARdUa2bDbMUM TIMES P",
  "AmSHdZIj2a CROSSING KA2oBbD2b3b4b5a OVER KAD5mKa TIMES IGI GUNUqLa TIMES BADjCROSSING KALoM2b4",
  "cSKALa LAGAB TIMES U OVER LAGAB TIMES U.CUNEIFORM; KASKAL OVER KASKAL LAGAB TIMES U OVER LAGA",
  "B TIMES U.CUNEIFORM; KESH2eIa TIMES BADdUaDjDbNbSALcHbIM5a OVER KISIM5rUa OVER HI TIMES ASH2 K",
  "U OVER HI TIMES ASH2.CUNEIFORM; KU3b4a VARIANT&o7bLa GUNUgNbRa OPPOSING KURoSHU2fWU318gLAaGAB",
  "a TIMES Aa PLUS DA PLUS HAkGARdLALjLbNbSH ZIDA TENUnBADcIcDARdENcGAaRcUDa PLUS GUDmHAaLcI TIME",
  "S NUNmIGI GUNUhMa PLUS HAcLUkKIaNcU3bLa PLUS HI PLUS AsLAGABeISHdUaLdMEa PLUS ENjUSHeNEcSHE PL",
  "US SUMkITA PLUS GISH PLUS ERIN2kTENUsU2a PLUS SHU2nUMdTAGbK4dE PLUS A PLUS SU PLUS NAzUa PLU",
  "S AbU PLUS Uo2 PLUS ASHkDbSHjSQUAREDjRa TIMES SHEa PLUS SUMsGUNUa OVER LAGAR GUNU SHE.CUNEIFOR",
  "M; LAHSHUeLa TIMES LALlMa TIMES KURa PLUS RUuIaLbMMU2eSHdUa TIMES BADk2a TIMES ALcBADdESH2a TE",
  "NUjGAN2 TENUjHI TIMES BADmIMcKAD2b3a PLUS ASHmIcLA PLUS ASHjGABfME PLUS ENkNEbUcSI PLUS ASHjK",
  "2 PLUS BUmTUG2jENUeCROSSING LU2mOPPOSING LU2mSQUAREDgHESHIGj3bGALa OVER LUGALjPPOSING LUGALoSH",
  "ESHIGlHbLbMa OVER LUMa GAR OVER GARzMAa TIMES TAK4kGUNUf2bHbRbSHa2eEaScIaNcUa OVER MUiGa GUNUg",
  "NSUBeRGU2eSHa TIMES AbKURdZAiOVER MUSHa TIMES A PLUS NAzCROSSING MUSHo3a TIMES Aa PLUS DIjDIiG",
  "UNUkNAa2bGAa INVERTEDiTIMES SHU TENUoOPPOSING NAGAoRdM NUTILLUia2dEa TIMES AbUDiSHESHIGjIa TIM",
  "ES Ei2bMa TIMES GAN2 TENUhR PLUS GAN2 TENU.CUNEIFORM; NINDA2a TIMES ANbSHa PLUS ASHmGUDdME PLU",
  "S GAN2 TENUrNEbUNdSHEa PLUS A ANdSHa PLUS ASHvU2 PLUS ASHkSHoSAGeUa11cNa LAGAR TIMES GARdMASHe",
  "SALa OVER NUN LAGAR TIMES SAL.CUNEIFORM; NUN LAGAR TIMES USHpTENUeOVER NUNiCROSSING NUNa LAGA",
  "R OVER LAGAR.CUNEIFORM; NUNUZa AB2 TIMES ASHGABgBIcDUGdGUDdIGI GUNUiKAD3eLAcNEcSILA3fU2mKISIM",
  "5 TIMES BIa UxPAaDbNbPcESH2eIa TIMES AaBcBIbUcEbIaBcUa2iCROSSING PImRIGa TIMES KALdUDcZAiOPPOS",
  "ING PIRIGuRAaBcIbUcSAaG NUTILLUia TIMES AbDUaBdHAcKAKcURdLUMdMIcNUNdSALcHIDeTABdU2bBbMbRbSHjOV",
  "ER SAGiGUNUgLa LAGAB TIMES ASH2sNGA2eRcHAa3a TIMES AbBADdGISHeNEcSHU2eTURdUa PLUS Aq6bB6cR2dE",
  "a HUcOVER SHE GAD OVER GAD GAR OVER GARzTAB OVER TAB GAR OVER GAR.CUNEIFORM; SHEG9cNbSHa2bLAMg",
  "IDa TIMES AbIMkMa TIMES AbBALcULUGfDINdGARdIGIa GUNUiKUSHU2gLULdMUGdSALlNIGdRa TENUeOVER SHI",
  "R BUR OVER BURyTAdUa OVER INVERTED SHUs2bBURfIa GUNUfGa4a OVER SIG4 SHU2rK2cLA3eUa OVER SUiDa2",
  "cHURdMaASHeRa9eTAa ASTERISKiTIMES HIcMIiGUNUfBa OVER TAB NI OVER NI DISH OVER DISH.CUNEIFORM",
  "; TAB SQUAREDjGa TIMES BIcGUDdSHEbUdTUG2eUDkK4cRcEa GUNUgIa TENUfLbRa TIMES TAK4kOVER TIRa GA",
  "D OVER GAD GAR OVER GAR.CUNEIFORM; TUaG2cKbMbRa OVER TUR ZA OVER ZAxUa GUDdU UdOVER U PA OVE",
  "R PA GAR OVER GARxSUR OVER SURmU REVERSED OVER U REVERSED.CUNEIFORM; U2bBbDa KUSHU2gTIMES BADd",
  "MIcU PLUS U PLUS Ua GUNU.CUNEIFORM; UD GUNUeSHESHIGa TIMES BADsUGdMa TIMES LAGABfME PLUS DAkSH",
  "A3eUiBINdUMa TIMES KASKALgPAmNa GUNUgRa CROSSING URlSHESHIGi2a TIMES A PLUS HAcNAiLcHAcNUNdU2",
  "a PLUS ASHdBIs4bIa3cUa TIMES AaSHGABgBARdDUNdGAaLbN2 TENUhRcUcHAcIGIcMbSHdKIcLUMdMINdPAcSHEcIG",
  "4eTUcU PLUS GUDjDbRUDAmDAa TIMES UmSHa TIMES AbKUaRdTAK4lXb2bUMXfTUKIeZ3a TIMES KASKALoUdZAa T",
  "ENUeSQUARED TIMES KURsGbMXdE2cIa OVER ZIi3bBa KABA TENUlGbZ2dUa5a TIMES AjBURdMdKAP ELAMITElA",
  "B TIMES NUNk2 TIMES AkMAR TIMES KUGoDAG KISIM5 TIMES U2 PLUS MASH.CUNEIFORM; DAG3dISH PLUS SHU",
  "mUB TIMES SHEnEZEN TIMES GUDdSHEoGA2 TIMES AN PLUS KAK PLUS ArSH2nE22dIGdHUSHeKA TIMES ANSHEeS",
  "H3eGISHdUDdHI TIMES ASH2nLUMdPAcSHULeTUcUR2mLAGAB TIMES GInU2 SHESHIG TIMES BADrTIMES ESH2 PLU",
  "S LALnSHUnMESHdUSH3 TIMES ZAoNA4cINa9bDA2 TIMES BALdGIoU11 ROTATED NINETY DEGREES.CUNEIFORM; P",
  "ESH2 ASTERISKnIR2eSAG TIMES IGI GUNUsTI2dUM TIMES MEk U(12400)iNUMERIC; TWO ASHgHREE ASHjFOU",
  "R ASHhIVE ASHiSIX ASHgEVEN ASHjEIGHT ASHjNINE ASHiTHREE DISHkFOUR DISHiIVE DISHjSIX DISHhEVE",
  "N DISHkEIGHT DISHkNINE DISHjFOUR UfIVE UgSIX UeEVEN UhEIGHT UhNINE UgONE GESH2jTWO GESH2iHRE",
  "E GESH2lFOUR GESH2jIVE GESH2kSIX GESH2iEVEN GESH2lEIGHT GESH2lNINE GESH2kONE GESHUjTWO GESHUiH",
  "REE GESHUlFOUR GESHUjIVE GESHUkTWO SHAR2iHREE SHAR2a VARIANT&yFOUR SHAR2jIVE SHAR2kSIX SHAR2iE",
  "VEN SHAR2lEIGHT SHAR2lNINE SHAR2kONE SHARUjTWO SHARUiHREE SHARUa VARIANT&yFOUR SHARUjIVE SHARU",
  "kSHAR2 TIMES GAL PLUS DISHeMINyONE BURUiTWO BURUhHREE BURUa VARIANT&xFOUR BURUiIVE BURUjTHRE",
  "E VARIANT& ESH16c21yFOUR VARIANT& LIMMUa4b AbBzSIX VARIANT& ASH9uEVEN VARIANT& IMIN3b AbBzEIGH",
  "T VARIANT& USSUa3yNINE VARIANT& ILIMMUa3b4b A.CUNEIFORM NUMERIC; TWO ASH TENUlHREE ASH TENUoFO",
  "UR ASH TENUmIVE ASH TENUnSIX ASH TENUmONE BAN2iTWO BAN2hHREE BAN2kFOUR BAN2a VARIANT&vIVE BAN2",
  "a VARIANT&wNIGIDAMINdESHjONE ESHE3jTWO ESHE3jONE THIRD DISHoTWO THIRDS DISHpFIVE SIXTHS DISHqO",
  "NE THIRD VARIANT& AyTWO THIRDS VARIANT& AzONE EIGHTH ASHkQUARTER ASHoLD ASSYRIAN ONE SIXTHfQUA",
  "RTERxNE QUARTER GURlHALF GURmELAMITE ONE THIRDjTWO THIRDSkFORTYeIFTYnFOUR U VARIANT&sIVE U VAR",
  "IANT&tSIX U VARIANT&rEVEN U VARIANT&uEIGHT U VARIANT&uNINE U VARIANT&(12470).CUNEIFORM PUNCTUA",
  "TION; OLD ASSYRIAN WORD DIVIDERz,COLONoDIAGONAL COLONfTRICOLONiQUADCOLON(12480).CUNEIFORM; A",
  "B TIMES NUN TENUiSHU2mD TIMES ESH2nBAD TIMES DISH TENUrHAR2 TIMES AB2dNIcZAoU OVER BU TIMES NA",
  "2uDA TIMES TAK4lG TIMES KURmIM TIMES IGIdU U Um2 TIMES UDmUG TIMES ANSHEeSHa AT >lDINcUNdERIN2",
  "fGAbIaR2 GUNUhSHeHAbIcIGI GUNUiKASKALfURbSHU2a PLUS KASKALsLAK-020fMa TIMES KURmUH PLUS GISHnM",
  "ASHdEScIcNIcPIcSHEcI GUNUrE2 TIMES KURdPAPlRIN2 XgSH2 CROSSING ESH2rZEN SHESHIG TIMES ASHdHIcI",
  "GI GUNUiLAaLdMEaSdSUqTIMES SUnGA2 TIMES BAHAR2gDIM GUNUhUG TIMES IGI GUNUiKASKALqERENeGAaR PLU",
  "S DIcNElHA PLUS AjKUSHU2 PLUS KASKALsLAMa TIMES KURmUHdMUSHeNEa PLUS E2cGIkSHIMeZIZ2mBA ROTATE",
  "D NINETY DEGREES.CUNEIFORM; GESHTIN TIMES UoISH TIMES GISH CROSSING GISH.CUNEIFORM; GU2 TIME",
  "S IGI GUNUqD PLUS GISH TIMES TAK4yHA TENU GUNUlI TIMES ASH OVER HI TIMES ASH.CUNEIFORM; KA TIM",
  "ES BUcKAcU U UeRlLAGAB TIMES ZU OVER ZUuK-003c21b5c30c50b1c62c79 OVER LAK-079 GUNUu80b1 OVER L",
  "AK-081p92d130c42d210b9c20b5b8c38c65b6d343b7b8c83b4c90d441b9a TIMES GUcIGIdPAP PLUS LU3dPAP PLU",
  "S LU3vU2 PLUS BAt50b7c70c83c90b2b3b5d550d608c17a TIMES ASHdBADdDUN3 GUNU GUNUoKU3dLAcTARcEcU2b",
  "DbRUDAo36c48a TIMES DUBdGAcIGIa GUNUiNIcPAP PLUS PAP PLUS LU3vSHESH PLUS KInUDbRUDAp724c49gU",
  "2 GUNU TIMES ASHoTIMES DISHeHALdPAPa PLUS PAP PLUS LU3vTAK4oMI PLUS ZA7kUSH OVER MUSH TIMES GA",
  "cKAKyNINDA2 TIMES DIM GUNUiGISHdULdHIcKESH2fLAK-050hMASHePAP PLUS PAPmUa PLUS UhRUDAsSAG GUN",
  "U TIMES HAnTIMES ENcSHE AT >lTAK4nHA6 TENUhE OVER SHEiPLUS HUB2eNAM2eSARkU2 PLUS DUG TIMES NIm",
  "E2 TIMES ANuI TIMES TAK4nTAK4 PLUS SAGmUM TIMES GAN2 TENUjTHREE DISHuUR2 INVERTEDiTIMES UDkU T",
  "IMES DARA3fLAK-668gU3nZA7cU OVER ZU PLUS SARr5 TIMES THREE DISH TENU(12F90).CYPRO-MINOAN; CM00",
  "1b2b4b5b6b7b8b9c10b1b2aBc3b5b7b9c21b3b4b5b6b7b8b9c30b3b4b5b6b7b8b9c40b1b4b6b7b9c50b1b2b3b4b5b6",
  "b8b9c60b1b2b3b4b6b7b8b9c70b1b2b3b4b5aBc6b8b9c80b1b2b3b4b5b6b7b8b9c90b1b2b4b5b6b7b8b9d100b1b2b3",
  "b4b5b7b8b9c10b2b4d301b2(13000).EGYPTIAN HIEROGLYPH A001b2b3b4b5aAc6aAbBc7b8b9c10b1b2b3b4aAc5b6",
  "b7aAc8b9c20b1b2b3b4b5b6b7b8b9c30b1b2aAc3b4b5b6b7b8b9c40aAc1b2aAc3aAc4b5aAc6b7b8b9c50b1b2b3b4b5",
  "b6b7b8b9c60b1b2b3b4b5b6b7b8b9c70eB001b2b3b4b5aAc6b7b8b9eC001b2aAbBbCc3b4b5b6b7b8b9c10aAc1b2b3b",
  "4b5b6b7b8b9c20b1b2b3b4eD001b2b3b4b5b6b7b8aAc9c10b1b2b3b4b5b6b7b8b9c20b1b2b3b4b5b6b7aAc8b9c30b1",
  "aAc2b3b4aAc5b6b7b8b9c40b1b2b3b4b5b6aAc7b8aAc9c50aAbBbCbDbEbFbGbHbIc1b2aAc3b4aAc5b6b7b8b9c60b1b",
  "2b3b4b5b6b7aAbBbCbDbEbFbGbHfE001b2b3b4b5b6b7b8aAc9aAd10b1b2b3b4b5b6aAc7aAc8b9c20aAc1b2b3b4b5b6",
  "b7b8aAc9c30b1b2b3b4aAc6b7b8eF001aAc2b3b4b5b6b7b8b9c10b1b2b3aAc4b5b6b7b8b9c20b1aAc2b3b4b5b6b7b8",
  "b9c30b1aAc2b3b4b5b6b7aAc8aAc9c40b1b2b3b4b5aAc6aAc7aAc8b9c50b1aAbBbCc2b3eG001b2b3b4b5b6aAc7aAbB",
  "c8b9c10b1aAc2b3b4b5b6b7b8b9c20aAc1b2b3b4b5b6aAc7b8b9c30b1b2b3b4b5b6aAc7aAc8b9c40b1b2b3aAc4b5aA",
  "c6b7b8b9c50b1b2b3b4eH001b2b3b4b5b6aAc7b8eI001b2b3b4b5aAc6b7b8b9aAd10aAc1aAc2b3b4b5eK001b2b3b4b",
  "5b6b7b8eL001b2aAc3b4b5b6aAc7b8eM001aAbBc2b3aAc4b5b6b7b8b9c10aAc1b2aAbBbCbDbEbFbGbHc3b4b5aAc6aA",
  "c7aAc8b9c20b1b2aAc3b4aAc5b6b7b8aAc9c30b1aAc2b3aAbBc4b5b6b7b8b9c40aAc1b2b3b4eN001b2b3b4b5b6b7b8",
  "b9c10b1b2b3b4b5b6b7b8aAbBc9c20b1b2b3b4b5aAc6b7b8b9c30b1b2b3aAc4aAc5aAc6b7aAc8b9c40b1b2dL001b2b",
  "3b4b5aAc6b7b8b9c10b1b2b3b4b5b6b7aAc8b9c20eU001b2b3b4b5b6b7b8b9c10aAc1aAc2b3b4b5b6b7b8aAc9c20b1",
  "b2aAgO001aAc2b3b4b5aAc6aAbBbCbDbEbFc7b8b9c10aAbBbCc1b2b3b4b5b6b7b8b9aAd20aAc1b2b3b4aAc5aAc6b7b",
  "8b9aAd30aAc1b2b3aAc4b5b6aAbBbCbDc7b8b9c40b1b2b3b4b5b6b7b8b9c50aAbBc1eP001aAc2b3aAc4b5b6b7b8b9c",
  "10b1eQ001b2b3b4b5b6b7eR001b2aAc3aAbBc4b5b6b7b8b9c10aAc1b2b3b4b5b6aAc7b8b9c20b1b2b3b4b5b6b7b8b9",
  "eS001b2aAc3b4b5b6aAc7b8b9c10b1b2b3b4aAbBc5b6b7aAc8b9c20b1b2b3b4b5b6aAbBc7b8b9c30b1b2b3b4b5aAc6",
  "b7b8b9c40b1b2b3b4b5b6eT001b2b3aAc4b5b6b7aAc8aAc9aAd10b1aAc2b3b4b5b6aAc7b8b9c20b1b2b3b4b5b6b7b8",
  "b9c30b1b2aAc3aAc4b5b6eU001b2b3b4b5b6aAbBc7b8b9c10b1b2b3b4b5b6b7b8b9c20b1b2b3aAc4b5b6b7b8b9aAd3",
  "0b1b2aAc3b4b5b6b7b8b9c40b1b2eV001aAbBbCbDbEbFbGbHbIc2aAc3b4b5b6b7aAbBc8b9c10b1aAbBbCc2aAbBc3b4",
  "b5b6b7b8b9c20aAbBbCbDbEbFbGbHbIbJbKbLc1b2b3aAc4b5b6b7b8aAc9aAd30aAc1aAc2b3aAc4b5b6b7aAc8b9c40a",
  "AfW001b2b3aAc4b5b6b7b8b9aAd10aAc1b2b3b4aAc5b6b7aAc8aAc9c20b1b2b3b4aAc5eX001b2b3b4aAbBc5b6aAc7b",
  "8aAfY001aAc2b3b4b5b6b7b8eZ001b2aAbBbCbDc3aAbBc4aAc5aAc6b7b8b9c10b1b2b3b4b5aAbBbCbDbEbFbGbHbIc6",
  "aAbBbCbDbEbFbGbHfAA001b2b3b4b5b6b7aAbBc8b9c10b1b2b3b4b5b6b7b8b9c20b1b2b3b4b5b6b7b8b9c30b1b2(13",
  "430)f,JOINERpHORIZONTAL JOINERrINSERT AT TOP STARTjBOTTOM STARTmTOP ENDhBOTTOM ENDuOVERLAY MID",
  "DLEoBEGIN SEGMENTnEND SEGMENT(14400).ANATOLIAN HIEROGLYPH A001b2b3b4b5b6b7b8b9c10aAc1b2b3b4b5b",
  "6b7b8b9c20b1b2b3b4b5b6aAc7b8b9c30b1b2b3b4b5b6b7b8b9aAd40b1aAc2b3b4b5aAc6aAbBc7b8b9c50b1b2b3b4b",
  "5b6b7b8b9c60b1b2b3b4b5b6aAbBbCc7b8b9c70b1b2b3b4b5b6b7b8b9c80b1b2b3b4b5b6b7b8b9c90b1b2b3b4b5b6b",
  "7aAc8aAc9d100aAc1aAc2aAc3b4aAbBbCc5aAbBc6b7aAbBbCc8b9c10aAbBc1b2b3b4b5aAc6b7b8b9c20b1b2b3b4b5a",
  "Ac6b7b8b9c30b1b2b3b4b5aAc6b7b8b9c40b1b2b3b4b5b6b7b8b9c50b1b2b3b4b5b6b7b8b9c60b1b2b3b4b5b6b7b8b",
  "9c70b1b2b3b4b5b6b7b8b9c80b1b2b3b4b5b6b7b8b9c90b1b2b3b4b5b6b7b8b9d200b1b2aAbBc3b4b5b6b7aAc8b9aA",
  "d10b1b2b3b4b5aAc6aAc7b8b9c20b1b2b3b4b5b6b7aAc8b9c30b1b2b3b4b5b6b7b8b9c40b1b2b3b4b5b6b7b8b9c50b",
  "1b2b3b4b5b6b7b8b9c60b1b2b3b4b5b6b7aAc8b9c70b1b2b3b4b5b6b7b8b9c80b1b2b3b4b5b6b7b8b9aAd90b1b2b3b",
  "4aAc5b6b7b8b9aAe300b1b2b3b4b5b6b7b8b9aAd10b1b2b3b4b5b6b7b8b9c20b1b2b3b4b5b6b7b8b9aAd30b1b2AbBb",
  "Cc3b4b5b6aAbBbCc7b8b9c40b1b2b3b4b5b6b7b8b9c50b1b2b3b4b5b6b7b8b9aAd60b1b2b3b4aAc5b6b7b8aAc9c70b",
  "1aAc2b3b4b5b6b7b8b9c80b1aAc2b3 RA OR RIjAc4b5b6aAc7b8b9c90b1b2b3 EIGHTh4b5b6b7b8b9d400b1b2b3b4",
  "b5b6b7b8b9c10 BEGIN LOGOGRAM|uA END LOGOGRAM|u1b2b3b4b5b6b7b8b9c20b1b2b3b4b5b6b7b8b9c30b1b2b3b",
  "4b5b6b7b8b9c40b1b2b3b4b5b6b7b8b9c50aAc1b2b3b4b5b6b7aAc8b9c60b1b2b3b4b5b6b7b8b9c70b1b2b3b4b5b6b",
  "7b8b9c80b1b2b3b4b5b6b7b8b9c90b1b2b3b4b5b6b7d501b2b3b4b5b6b7b8b9c10b1b2b3b4b5b6b7b8b9c20b1b2b3b",
  "4b5b6b7b8b9c30(16800).BAMUM$PHASE-A NGKUE MFONkGBIEE FONjPON MFON PIPAEMGBIEEfBArNAA MFONiSHUE",
  "NSHUETkTITA MFONjNZA MFONiSHINDA PA NJInPON PA NJI PIPAEMGBIEEfBAtMAEMBGBIEEkTU MAEMBAjNGANGUg",
  "MAEMVEUXgNSUAEgVEUAENGAMkSEUNYAMhNTOQPENhKEUKEUTNDAkNKINDIgSUUdNGKUENZEUMkLAPAQeET KUThNTAP MF",
  "AAjMAEKEUPhPASHAEgGHEUAERAEjPAMSHAEhMON NGGEUAETmNZUN MEUTjU YUQ NAEjGHEUAEGHEUAEmNTAP NTAAjSI",
  "SAeMGBASAfEUNJOMNDEUQlOOMPUQhKAFAePA LEERAEWAlNDA LEERAEWAmPETdMAEMKPENiNIKAePUPdTUAEPfLUAEPfS",
  "ONJAMgTEUTEUWENjMAENYIgKETdNDAANGGEUAETmKUOQeMOOMEUThSHUMeLOMMAEgFIRIeROMdKPOQeSOQdMAP PIEETjS",
  "HIRAEgNTAPeSHOQ NSHUT YUMoNYIT MONGKEUAEQpPAARAEgNKAARAEhUNKNOWNhNGGENfMAESIfNJAMeMBANYIgNYETe",
  "TEUAENgSOTdPAAMeNSHIEEgMAEMeNYIdKAQdNSHAeVEEdLUcNENcAQdMBAQgB NSHUETgTU MAEMGBIEEmSIEEdET TUgL",
  "OM NTEUMjMBA MAELEEkKIEEMfYEURAEgMBAARAEhKAMdPEESHIgYAFU LEERAEWAnLAM NSHUT NYAMoNTIEE SHEUOQl",
  "DU NJAAiGHEUGHEUAEMlPITdTU NSIEEiSHET NJAQgUAEQTUjMFON TEUAEQkBIT MBAAKETmNYI NTEUMjKEUPUQgGHE",
  "UGHENiKEUYEUXhLAANAEgPARUMfVEUMeNGKINDI MVOPkGEU MBUjWUAETfSAKEUAEhTAAMeMEUQeNGGUOQa LARGEmMFI",
  "YAQgSUEdMBEURIfONTIEENiNYAEMAEhPUNGAAMhMEUT NGGEETlFEUXeMBUOQfFEEdKEUAEMgMA NJEUAENAgUQAiLETdN",
  "GGAAMfSENeMAcKIQdNGOMgC NGKUE MAEMBAlZAdYUMdWANGKUOQiNGGENeDEUAEREEiGKAQfGHARAEgMBEEKEETiGBAYI",
  "fNYIR MKPARAQ MEUNqTU MBITiMBEUMfPIRIEENhNDOMBUgMBAA CABBAGE-TREErKEUSHEUAEPkGHAPeKEUKAQgYU MU",
  "OMAEjNZEUMfMBUEeNSEUAENhMBITeYEUQeKPARAQfAAdSEUXeNDIDAfTAASHAEhNJUEQfTITA YUEiSUAETfNGGUAEN NY",
  "AMmVEUXeNANSANAQiMA KEUAERIkNTAAdGGUONgLAPdMBIRIEENhGBASAQhNTEUNGBAiTEUTEUXhNGGUMfFUEdNDEUTeSA",
  "bHAQfBUNGeVEUAEPENiMBERAEgRUcNJAEMfLAMdTITUAEPhNSUOT NGOMjJEEEEgKETdNGGUeMAESIeBUAEMgLUcKUTdNJ",
  "AMdGOMeWUPdNGGUEETgSOMdTENeKUOP NKAARAEmNSUNdDAMeMA NSIEEiYAAdNDAPeSHUEQeETFONgMBIcAEMBAfBANYI",
  "gKEUSEUXhMBEUXfKEUMeMBAA PICKETlYUWOQfNJEUXfMIEEdUAEeSHIQeKEN LAWdFATIGUElNGAQdAQdLIQdPINcENdT",
  "ETfD MBUOeWAPdNJIdMFONeNJIEEfLIEEeNJEUTeSHEEeGGAAMAEhYAMeWUAENfNGKUNfSHEEeNGKAPfKEUAETMEUNkTEU",
  "TeSHEUAEgNJAPeSUEdKETdYAEMMAEhKUOMeSAPdMFEUTfNDEUXfMALEERIgEUTeSEUAEQgYENdNJEUAEMhKEUOT MBUAEl",
  "NGKEURIhTUcGHAAeNGKYEEgFEUFEUAETjNDEEeMGBOFUMhLEUAEPgNDONeMONIdGBEUNgPUUTeMGBIEEfFOdLUMdNSIEEP",
  "gMBAAeKWAETfNYETeTEUAENgSOTdYUWOQfKEUMeRAEMeTEEEEfNGKEUAEQiMFEUAEgNSIEETgKEUPePIPcEUTAEgNYUEeL",
  "ETdNGGAAMgMFIEEfNGGWAENhYUOMePAPdYUOPeNDAMdTEUMfSUAEeKUNdNGGEUXeKIEEgTUOTeMEUNeKUQdNSUMeTEUNeM",
  "AENJEThNGGAPfLEUMeNGGUOMfSHUTeJUEQfGHEUAEgKUcREN OLDhTAEcOQdNYIdRIIdLEEEEfMEEEEebSUUdMUcSHIIcE",
  "UXfKYEEeNUcSHUdNTEEePEEdNIcSHOQePUQdMVOPeLOQdREN MUCHiTIcNTUUeMBAA SEVENkSAQdFAAfE NDAPeTOONeM",
  "BEUMfLAPdVOMdLOONePAAdSOMdRAQdNSHUOPfDUNePUAEeTAMdNGKAeKPEUXfWUOdSEEdNGGEUAETiPAAMeTOOdKUOPeLO",
  "MdNSHIEEfGOPeMAEMeNGKEUXeOQdSHUEfRIMGBAgNJEUXfPEEMeSAAdNGGURAEhMGBAeGHEUXfNGKEUAEMhJAEMLIhMAPd",
  "LOOTeNGGEEEEgDIQeTAEN NTEUMkSETdPUMdNDAA SOFTNESSmGGUAESHAE NYAMpYIEEeGHEUNfTUAEeYEUAEfPOcTUMA",
  "EfKEUAEfSUAENfTEUAEQgVEUAEfWEUXeLAAMePUcTAAQeGHAAMAEhNGEUREUTiSHEUAEQhMGBENeBEEeNZAQdKOMeGBETe",
  "TUMdKUETeYAPdNYI CLEAVERlYITdMFEUQfNDIAQfPIEEQfYUEQeLEUAEMgFUEdGBEUXfNGKUPfKETdMAEdNGKAAMIhGHE",
  "TeFAcNTUMePEUTeYEUMeNGGEUAEgYI BETWEENkZUQePOONeMIEEeFUETeNAEdMUAEeGHEUAEgFU IeMVIdPUAQeNGKUMf",
  "KUTdPIETeNTAPeYEUAETgNGGUPfPA PEOPLEjFU CALLgOMdNJEEeAbTOQdObIbLAQdPA PLURALjTAAbQdNDAA MY HOU",
  "SEnSHIQeYEUXeNGUAEfYUAENeOQ SWIMMINGiCOVERiUQbNdKEUXePEUXeNJEE EPOCHkPUEdWUEdFEEdVEEdLUcMIcREU",
  "XdAEdNGUAETeAdSHOaQeFU REMEDYjNAcPIcLOQdKOcMENcAaQdTEUdKIcMONdTENdFAQdGHOMgF KAcUbKUcEEcREEdTA",
  "EdNYIdLAcRIIbEEeMEEEEfTAAdNDAAdJAEMfMbSUUcHIIdIbEUXeKYEEdETdNUAEcbJUAEfYOQdSHUdYAcNSHAePEUXeNT",
  "EEeWUEdPEEdRUcNIcREUXeKENdNGKWAENfGAeSHOdPUAEeFOMdWAcLIbOQdKOcMBENeRENdMAbObBAAeTETdKPAdSAMBAf",
  "VUEQ(16A40).MRO$TAcNGIdYOcMIMdBAcDAcAbPHIdKHAIeHAOdDAIdCHUdKEAAEfOLcMAEMeNINdPAcOObbROcSHIdTHE",
  "AeEAcWAcEbKOcLANbcHAIdRIcTEK(16A60)kDIGIT ZEROeONEdTWOcHREEfFOURdIVEeSIXcEVENfEIGHTfNINE(16A6E",
  ")jANDA.MRO @ DANDA.TANGSA$OZbCbQbXcAZbCbQbXcVZbCbQbXcEZbCbQbXcIZbCbQbXcUZbCbQbXcAWZbCbQbXdUIZb",
  "CbQbXdFINAL NGiLONG UEXiSHORT UEZdAWXjUECbZbQbXcIUZbCbQbXeMZbCbQbXcKAbHAdGAcNGAdSAcYAcWAcPAcNY",
  "AdPHAdBAcMAcNAcHAcLAcHTAdTAcDAcRAcNHAdSHAdCAcTSAdGHAdHTTAeTHAdXAcFAcDHAdCHAdZA(16AC0)jDIGIT ZE",
  "ROeONEdTWOcHREEfFOURdIVEeSIXcEVENfEIGHTfNINE(16AD0).BASSA VAH$ENNIeKAcSEcFAcMBEdYIEdGAHdDHIIeK",
  "PAHeJOcHWAHeWAcZOcGBUdDOcCEcUWUdTOcBAcVUcYEINePAcWADDAfAbOaOcUbEEbbI(16AF0)iCOMBINING HIGH TON",
  "EjLOW TONEiMID TONEiLOW-MID TONEmHIGH-LOW TONExFULL STOP(16B00).PAHAWH HMONG VOWEL KEEBbVdIBbV",
  "cAUBbVdUBbVcEBbVcAIBbVdOOBbVdAWBbVdUABbVdOBbVcIABbVdABbVcWBbVcAABbVkCONSONANT VAUdNTSAUfLAUdHA",
  "UdNLAUeRAUdNKAUeQHAUeYAUdHLAUeMAUdCHAUeNCHAUfHNAUePLHAUfNTHAUeAUdAUcXAUdCAUnMARK CIM TUBdSOcKE",
  "ScHAVeSUAMeHOMdTAUMnSIGN VOS THOMdSHAB CEEBoCIM CHEEMjVOS THIABfFEEMiXYEEM NTXIVfRHOdTOVdFAIBk",
  "VOS SEEViMEEJ SUABjVOS NRUAiIB YAMgXAUSeCIM TSOV ROG(16B50)rDIGIT ZEROeONEdTWOcHREEfFOURdIVEeS",
  "IXcEVENfEIGHTfNINE(16B5B)kNUMBER TENSeHUNDREDSiTEN THOUSANDSnMILLIONSiHUNDRED MILLIONSqTEN BIL",
  "LIONSlRILLIONS(16B63)qSIGN VOS LUBhXYOOeHLIdTHIRD-STAGE HLIpZWJ THAJiHNUBeNQIGeXIABeNTUJeAVcTX",
  "HEEJ CEEVlMEEJ TSEEBkTAUdLOSdMUSdCIM HAIS LUS NTOG NTOGsCUAM TSHOOJlTXWVa CHWVjPUB DAWBiNRES T",
  "OS(16B7D)rCLAN; TSHEEJgYEEGeLIScAUJeXYOOJfKOOdHAWJeMUASeTHOJdSABePHABeKHABeHAMdVAJdFAJdYAJdTSW",
  "BeKWMdVWJ(16E40).MEDEFAIDRIN CAPITAL$MbSbVbWbATIUeZbKPcPbTbGbFbIbKbAbJbEbBbCbUbYUcLbQbHPcNYcXb",
  "DbOEcNbRbObAIcYqSMALL$MbSbVbWbATIUeZbKPcPbTbGbFbIbKbAbJbEbBbCbUbYUcLbQbHPcNYcXbDbOEcNbRbObAIcY",
  "oDIGIT ZEROeONEdTWOcHREEfFOURdIVEeSIXcEVENfEIGHTfNINEkNUMBER TENdELEVENgTWELVEfHIRTEENiFOURTEE",
  "NhIFTEENhSIXTEENgEVENTEENjEIGHTEENiNINETEENpDIGIT ONE ALTERNATE&sTWO ALTERNATE&rHREE ALTERNATE",
  "&.MEDEFAIDRIN COMMAfFULL STOPjSYMBOL AIVAlEXCLAMATION OH(16F00)zIAO$PAcBAcYI PAfPLAdMAbHAdARCH",
  "AIC MAkFAcVAbFAdTAcDAcYI TTAcAfTTAdDDAdNAbHAdYI NNAgARCHAIC NAkNNAbHAeLAbYAcHAbYAeTLHAeDLHAeTL",
  "HYAfDLHYAfKAcGAcYI KAfQAbGAdNGAbHAeARCHAIC NGAlHAcXAcGHAbHAeTSSAeDZZAeNYAbHAeTSHAeDZHAeYI TSHA",
  "eDZHAhREFORMED TSHAnSHAcSAdZHAcSHAeTSAdDZAdYI TSAgSAcZAbSAcZAbSAeARCHAIC ZZAlZZYAcSYAfWAcAHcHH",
  "AdBRIdSYIdDZYIeTEbSEdRTE(16F4F)kSIGN CONSONANT MODIFIER BAR.MIAO$NASALIZATIONtSIGN ASPIRATIONk",
  "REFORMED VOICINGhASPIRATIONyVOWEL; AaAbHHcNaGdOaOcWObbEaNaGdOEYdIaAaNaGdObEbIbUbNGdUaAaNaGdUbE",
  "IcNGdYaIcAEaEdERRdROUNDED ERRlERcROUNDED ERkAIcEIcAUcOUcNaGcUOGdYUIdOGbERdVWcIGcEAcIONGeUI(16F",
  "8F)nTONE *fTOP *jABOVEfBELOW.MIAO$TONE-2b3b4b5b6b7b8gREFORMED TONE-1b2b4b5b6b8(16FE0).TANGUT I",
  "TERATION|.NUSHU ITERATION|.OLD CHINESE HOOK|jITERATION|.KHITAN SMALL SCRIPT FILLER(16FF0).VIET",
  "NAMESE ALTERNATE READING| CAcNHAY(18800).TANGUT COMPONENT-001b2b3b4b5b6b7b8b9c10b1b2b3b4b5b6b7",
  "b8b9c20b1b2b3b4b5b6b7b8b9c30b1b2b3b4b5b6b7b8b9c40b1b2b3b4b5b6b7b8b9c50b1b2b3b4b5b6b7b8b9c60b1b",
  "2b3b4b5b6b7b8b9c70b1b2b3b4b5b6b7b8b9c80b1b2b3b4b5b6b7b8b9c90b1b2b3b4b5b6b7b8b9d100b1b2b3b4b5b6",
  "b7b8b9c10b1b2b3b4b5b6b7b8b9c20b1b2b3b4b5b6b7b8b9c30b1b2b3b4b5b6b7b8b9c40b1b2b3b4b5b6b7b8b9c50b",
  "1b2b3b4b5b6b7b8b9c60b1b2b3b4b5b6b7b8b9c70b1b2b3b4b5b6b7b8b9c80b1b2b3b4b5b6b7b8b9c90b1b2b3b4b5b",
  "6b7b8b9d200b1b2b3b4b5b6b7b8b9c10b1b2b3b4b5b6b7b8b9c20b1b2b3b4b5b6b7b8b9c30b1b2b3b4b5b6b7b8b9c4",
  "0b1b2b3b4b5b6b7b8b9c50b1b2b3b4b5b6b7b8b9c60b1b2b3b4b5b6b7b8b9c70b1b2b3b4b5b6b7b8b9c80b1b2b3b4b",
  "5b6b7b8b9c90b1b2b3b4b5b6b7b8b9d300b1b2b3b4b5b6b7b8b9c10b1b2b3b4b5b6b7b8b9c20b1b2b3b4b5b6b7b8b9",
  "c30b1b2b3b4b5b6b7b8b9c40b1b2b3b4b5b6b7b8b9c50b1b2b3b4b5b6b7b8b9c60b1b2b3b4b5b6b7b8b9c70b1b2b3b",
  "4b5b6b7b8b9c80b1b2b3b4b5b6b7b8b9c90b1b2b3b4b5b6b7b8b9d400b1b2b3b4b5b6b7b8b9c10b1b2b3b4b5b6b7b8",
  "b9c20b1b2b3b4b5b6b7b8b9c30b1b2b3b4b5b6b7b8b9c40b1b2b3b4b5b6b7b8b9c50b1b2b3b4b5b6b7b8b9c60b1b2b",
  "3b4b5b6b7b8b9c70b1b2b3b4b5b6b7b8b9c80b1b2b3b4b5b6b7b8b9c90b1b2b3b4b5b6b7b8b9d500b1b2b3b4b5b6b7",
  "b8b9c10b1b2b3b4b5b6b7b8b9c20b1b2b3b4b5b6b7b8b9c30b1b2b3b4b5b6b7b8b9c40b1b2b3b4b5b6b7b8b9c50b1b",
  "2b3b4b5b6b7b8b9c60b1b2b3b4b5b6b7b8b9c70b1b2b3b4b5b6b7b8b9c80b1b2b3b4b5b6b7b8b9c90b1b2b3b4b5b6b",
  "7b8b9d600b1b2b3b4b5b6b7b8b9c10b1b2b3b4b5b6b7b8b9c20b1b2b3b4b5b6b7b8b9c30b1b2b3b4b5b6b7b8b9c40b",
  "1b2b3b4b5b6b7b8b9c50b1b2b3b4b5b6b7b8b9c60b1b2b3b4b5b6b7b8b9c70b1b2b3b4b5b6b7b8b9c80b1b2b3b4b5b",
  "6b7b8b9c90b1b2b3b4b5b6b7b8b9d700b1b2b3b4b5b6b7b8b9c10b1b2b3b4b5b6b7b8b9c20b1b2b3b4b5b6b7b8b9c3",
  "0b1b2b3b4b5b6b7b8b9c40b1b2b3b4b5b6b7b8b9c50b1b2b3b4b5b6b7b8b9c60b1b2b3b4b5b6b7b8(1AFF0).KATAKA",
  "NA$MINNAN TONE-2b3b4b5(1AFF5)b7b8gNASALIZED TONE-1b2b3b4b5(1AFFD)b7b8(1B000)xARCHAIC E.HIRAGAN",
  "A$ARCHAIC YEzENTAIGANA$A-1b2b3bWOeI-1b2b3b4dU-1b2b3b4b5dE-2b3b4b5b6dO-1b2b3dKA-1b2b3b4b5b6b7b8",
  "b9b10b1cKEeI-1b2b3b4b5b6b7b8dU-1b2b3b4b5b6b7dE-1b2b3b4b5b6dO-1b2b3bKIfSA-1b2b3b4b5b6b7b8dI-1b2",
  "b3b4b5b6dU-1b2b3b4b5b6b7b8dE-1b2b3b4b5dO-1b2b3b4b5b6b7eTA-1b2b3b4dI-1b2b3b4b5b6b7dU-1b2b3b4bTO",
  "eE-1b2b3b4b5b6b7b8b9dO-1b2b3b4b5b6bRAfNA-1b2b3b4b5b6b7b8b9dI-1b2b3b4b5b6b7bTEeU-1b2b3dE-1b2b3b",
  "4b5b6bKOeO-1b2b3b4b5eHA-1b2b3b4b5b6b7b8b9b10b1eI-1b2b3b4b5b6b7dU-1b2b3dE-1b2b3b4b5b6b7dO-1b2b3",
  "b4b5b6b7b8eMA-1b2b3b4b5b6b7dI-1b2b3b4b5b6b7dU-1b2b3b4dE-1b2bMAeO-1b2b3b4b5b6eYA-1b2b3b4b5bYOeU",
  "-1b2b3b4dO-1b2b3b4b5b6eRA-1b2b3b4dI-1b2b3b4b5b6b7dU-1b2b3b4b5b6dE-1b2b3b4dO-1b2b3b4b5b6eWA-1b2",
  "b3b4b5dI-1b2b3b4b5dE-1b2b3b4dO-1b2b3b4b5b6b7eN-MU-MO-1b2.HIRAGANA$ARCHAIC WU.KATAKANA$ARCHAI",
  "C YIbEcWU(1B150).HIRAGANA$SMALL WIbEbO(1B164).KATAKANA$SMALL WIbEbOcN(1BC00).DUPLOYAN$HbXbPbTb",
  "FbKbLbBbDbVbGbRbP NdD SdF NdK MdR SdTHcSLOAN DHiDHcKKcSLOAN JhHLcLHcRHcMbNbJbSbM NdN MdJ MdS J",
  "dM%DOTkN%DOTkJ%DOTaS INSIDE AND<.DUPLOYAN$S%DOTa=qM SdN SdJ SdS SdM N SfN M SfJ M SfS J SfJ S%",
  "DOTkNa SfS Ta RdPa RfT SbR SfWaHb RdS NbMdK R SfG R SfS Ka RfAbSLOAN OWiOAbbAOUdIbEbIEcSHORT I",
  "hUIcEEcSLOAN EHiROMANIAN IkSLOAN EEiLONG IgYEcUbEUcXWcU NdLONG UgROMANIAN UkUHcSLOAN UhOOHcWbU",
  "cWAbObIbEIcOWdNASAL UbObIbAhPERNIN ANbMjSLOAN ENcANcONiVOCALIC M(1BC70)qAFFIX > HORIZONTAL SEC",
  "ANTwMID HORIZONTAL SECANTv* HORIZONTAL SECANTxLOW ,SECANTtMID ,SECANTtHIGH ,SECANTuATTACHED SE",
  "CANTg>-TO-* SECANTuTANGENTfILeE HOOKgI HOOKgTANGENT HOOK(1BC80)vHIGH ACUTEfTIGHT ACUTElGRAVEfL",
  "ONG GRAVEkDOTdCIRCLEgLINEeWAVEeVERTICAL(1BC90)nLOW ACUTEfTIGHT ACUTElGRAVEfLONG GRAVEkDOTdCIRC",
  "LEgLINEeWAVEeVERTICALiARROW(1BC9C)pSIGN O%CROSSrTHICK$SELECTORv@|lPUNCTUATION CHINOOK FULL STO",
  "P.SHORTHAND&AT$OVERLAPoCONTINUING OVERLAPsDOWN STEPjUP STEP(1CF00).ZNAMENNY COMBINING| GORAZD",
  "O NIZKO S KRYZHEM ON >.ZNAMENNY COMBINING| NIZKO S KRYZHEM ON >xTSATA ON >nGORAZDO NIZKO ON >v",
  "NIZKO ON >nSREDNE ON >oMALO POVYSHE ON >uPOVYSHE ON >pVYSOKO ON >oMALO POVYSHE S KHOKHLOM ON >",
  ".ZNAMENNY COMBINING| POVYSHE S KHOKHLOM ON >.ZNAMENNY COMBINING| VYSOKO S KHOKHLOM ON >zGORAZD",
  "O NIZKO S KRYZHEM ON *.ZNAMENNY COMBINING| NIZKO S KRYZHEM ON *yTSATA ON *oGORAZDO NIZKO ON *w",
  "NIZKO ON *oSREDNE ON *pMALO POVYSHE ON *vPOVYSHE ON *qVYSOKO ON *pMALO POVYSHE S KHOKHLOM ON *",
  ".ZNAMENNY COMBINING| POVYSHE S KHOKHLOM ON *.ZNAMENNY COMBINING| VYSOKO S KHOKHLOM ON *.ZNAMEN",
  "NY COMBINING| TSATA S KRYZHEMpMALO POVYSHE S KRYZHEMwSTRANNO MALO POVYSHEuPOVYSHE S KRYZHEMiTR",
  "ANNOpVYSOKO S KRYZHEMqMALO POVYSHE STRANNOuGORAZDO VYSOKOoZELOeONcRAVNOfTIKHAYAhBORZAYAhUDARKA",
  "gPODVERTKAjLOMKAfKUPNAYAgACHKAgZEVOKfSKOBAfRAZSEKAhKRYZH ON >(1CF30)sTONAL RANGE| MRACHNOhSVET",
  "LOgTRESVETLO.ZNAMENNY COMBINING| ZADERZHKAjDEMESTVENNY ZADERZHKAvOTSECHKAiPODCHASHIEa%,STROKE.",
  "ZNAMENNY COMBINING| CHASHKAa POLNAYApOBLACHKOiSOROCHYA NOZHKApTOCHKAgDVOETOCHIEpATTACHING ,OME",
  "TxMARK CURVED OMETlKRYZHkLOWER TONAL RANGE INDICATOR.ZNAMENNY PRIZNAK MODIFIER LEVEL-2b3hDIREC",
  "TION FLIPoKRYZHfROG(1CF50)uNEUME KRYUKa TIKHYlPARAKLITiDVA V CHELNUmKLYUCHgZANOZHEKiSTOPITSA",
  "a S OCHKOMrPEREVODKAa NEPOSTOYANNAYAySTOPITSA%SOROCHYA NOZHKA.ZNAMENNY NEUME CHELYUSTKAkPALKAf",
  "ZAPYATAYAjGOLUBCHIK BORZYfTIKHYfMRACHNYhSVETLYgTRESVETLYtVRAKHIYA PROSTAYAiMRACHNAYAjSVETLAYAi",
  "TRESVETLAYAlKLYUCHEVAYA PROSTAYAiMRACHNAYAjSVETLAYAiTRESVETLAYA.ZNAMENNY NEUME @ ZAPYATAYAqREV",
  "ERSED CHELYUSTKAtDERBITSAiKHAMILOhCHASHKAhPODCHASHIEkSKAMEYTSA MRACHNAYAjSVETLAYAiTRESVETLAYAk",
  "IKHAYArDEMESTVENNY KLYUCHsSKAMEYTSA KLYUCHEVAYA SVETLAYAnNEPOSTOYANNAYAoVAYA TIKHAYAtDVOECHELN",
  "AYA PROSTAYAiSVETLAYAiNEPOSTOYANNAYAoKLYUCHEVAYA.ZNAMENNY NEUME SLOZHITIEa S ZAPYATOYkZAKRYTOE",
  "iS KRYZHEMtKRYZHfROGdFITAeKOBYLAgZMEYTSAhSTATYAa S ZAPYATOYiKRYZHEMhZAPYATOY I KRYZHEMsKRYZHE",
  "M I ZAPYATOYuZAKRYTAYAa S ZAPYATOYuS ROGOMfDVUMYA ZAPYATYMIqZAPYATOY I PODCHASHIEM.ZNAMENNY NE",
  "UME POLKULIZMYkSTATYA NEPOSTOYANNAYAtRELA PROSTAYAiMRACHNOTIKHAYAoKRYZHEVAYAkPOLUPOVODNAYAlVOD",
  "NAYAjNEPOSTOYANNAYAoKLYUCHEPOVODNAYAjNEPOSTOYANNAYAvTIKHAYA PUTNAYApDVOECHELNAYAdOKRYZHEVAYAkP",
  "OVODNAYAkAYA KLYUCHEVAYApOPOVODNAYA KLYUCHEVAYA.ZNAMENNY NEUME STRELA GROMNAYA%SINGLE ZAPYATAY",
  "A.ZNAMENNY NEUME STRELA GROMOPOVODNAYA%SINGLE ZAPYATAYA.ZNAMENNY NEUME STRELA GROMNAYAeOPOVODN",
  "AYAa%@ ZAPYATAYA.ZNAMENNY NEUME STRELA GROMOKRYZHEVAYAa POVODNAYA.ZNAMENNY NEUME MECHIKa POVOD",
  "NYhKLYUCHEVOYdPOVODNYhNEPOSTOYANNY.ZNAMENNY NEUME STRELA TRYASOGLASNAYAiPOVODNAYAjSTRELNAYAwOS",
  "OKAa SVETLAYAiTRESVETLAYAlKRYUKOVAYA SVETLAYAsLYUCHEVAYA SVETLAYAiNEPOSTOYANNAYA.ZNAMENNY NEUM",
  "E STRELA KRYUKOVAYAa POVODNAYAjGROMNAYA%SINGLE ZAPYATAYA.ZNAMENNY NEUME STRELA KRYUKOVAYA GROM",
  "OPOVODNAYA%SINGLE ZAPYATAYA.ZNAMENNY NEUME STRELA KRYUKOVAYA GROMNAYAeOPOVODNAYAa%@ ZAPYATAYA.",
  "ZNAMENNY NEUME STRELA KRYUKOVAYA GROMOKRYZHEVAYAa POVODNAYAzTRYASKAzKUFISMAhOBLAKOgDUDAeNEMKAf",
  "PAUK"]

end Readiness.CharacterName
