/-!
# Names of characters: syllables and compatibility forms

The names of the code points from U+3000 to U+FFFF, save those that a rule gives.
How they are written down is told where they are looked up.
-/

namespace Readiness.CharacterName

/-- The names of the code points from U+3000 to U+FFFF, save those that a rule gives. -/
def syllables : List String := [
  "(3000).IDEOGRAPHIC SPACEfCOMMAfFULL STOP.DITTO|.JAPANESE INDUSTRIAL STANDARD_.IDEOGRAPHIC ITER",
  "ATION|oCLOSING|mNUMBER ZERO.> ANGLE BRACKET.* ANGLE BRACKET.> @ ANGLE BRACKET.* @ ANGLE BRACKE",
  "T.> CORNER BRACKET.* CORNER BRACKET.> WHITE CORNER BRACKET.* WHITE CORNER BRACKET.> ~ LENTICUL",
  "AR BRACKET.* ~ LENTICULAR BRACKET.POSTAL|.GETA|.> TORTOISE SHELL BRACKET.* TORTOISE SHELL BRAC",
  "KET.> WHITE LENTICULAR BRACKET.* WHITE LENTICULAR BRACKET.> WHITE TORTOISE SHELL BRACKET.* WHI",
  "TE TORTOISE SHELL BRACKET.> WHITE SQUARE BRACKET.* WHITE SQUARE BRACKET.WAVE DASH.REVERSED @ P",
  "RIME QUOTATION|.@ PRIME QUOTATION|.LOW @ PRIME QUOTATION|.POSTAL| FACE.HANGZHOU NUMERAL ONEdTW",
  "OcHREEfFOURdIVEeSIXcEVENfEIGHTfNINE.IDEOGRAPHIC LEVEL TONE|pRISING TONE|qDEPARTING TONE|tENTER",
  "ING TONE|.HANGUL SINGLE DOT TONE|u@ DOT TONE|.WAVY DASH.,KANA REPEAT|eWITH VOICED SOUND|wMAR",
  "K UPPER HALFpWITH VOICED SOUND| UPPER HALF.,KANA REPEAT| LOWER HALF.CIRCLED POSTAL|.IDEOGRAPHI",
  "C TELEGRAPH LINE FEED SEPARATOR_.HANGZHOU NUMERAL TENcWENTYfHIRTY.,IDEOGRAPHIC ITERATION|.MASU",
  "|.PART ALTERNATION|.IDEOGRAPHIC VARIATION INDICATORtHALF FILL SPACE(3041).HIRAGANA$SMALL AhAbS",
  "MALL IhIbSMALL UhUbSMALL EhEbSMALL OhObKAcGAcKIcGIcKUcGUcKEcGEcKOcGOcSAcZAcSIcZIcSUcZUcSEcZEcS",
  "OcZOcTAcDAcTIcDIcSMALL TUiTUcDUcTEcDEcTOcDOcNAbIbUbEbOcHAcBAcPAcHIcBIcPIcHUcBUcPUcHEcBEcPEcHOc",
  "BOcPOcMAbIbUbEbOcSMALL YAiYAcSMALL YUiYUcSMALL YOiYOcRAbIbUbEbOcSMALL WAiWAbIbEbOcNbVUcSMALL K",
  "AbE(3099).COMBINING KATAKANA-HIRAGANA VOICED SOUND|rSEMI-VOICED SOUND|.KATAKANA-HIRAGANA VOICE",
  "D SOUND|rSEMI-VOICED SOUND|.HIRAGANA ITERATION|oVOICED ITERATION|vDIGRAPH YORI.KATAKANA-HIRAGA",
  "NA @ HYPHENx$SMALL AhAbSMALL IhIbSMALL UhUbSMALL EhEbSMALL OhObKAcGAcKIcGIcKUcGUcKEcGEcKOcGOcS",
  "AcZAcSIcZIcSUcZUcSEcZEcSOcZOcTAcDAcTIcDIcSMALL TUiTUcDUcTEcDEcTOcDOcNAbIbUbEbOcHAcBAcPAcHIcBIc",
  "PIcHUcBUcPUcHEcBEcPEcHOcBOcPOcMAbIbUbEbOcSMALL YAiYAcSMALL YUiYUcSMALL YOiYOcRAbIbUbEbOcSMAL",
  "L WAiWAbIbEbOcNbVUcSMALL KAbEiVAbIbEbOjMIDDLE DOTl-HIRAGANA PROLONGED SOUND|.KATAKANA ITERATIO",
  "N|oVOICED ITERATION|vDIGRAPH KOTO(3105).BOPOMOFO$BbPbMbFbDbTbNbLbGbKbHbJbQbXbZHcCHcSHcRbZbCbSb",
  "AbObEaHcAIcEIcAUcOUcANcENcANGdENGcRcIbUbIUcVbNGcGNcIHcO%DOT<qNN(3131).HANGUL$KIYEOKgSSANGKIYEO",
  "KlKIYEOK-SIOSlNIEUNa-CIEUCfHIEUHlTIKEUTgSSANGTIKEUTlRIEULa-KIYEOKgMIEUMfPIEUPfSIOSeTHIEUTHhPHI",
  "EUPHhHIEUHlMIEUMfPIEUPfSSANGPIEUPkPIEUP-SIOSkSIOSdSANGSIOSjIEUNGfCIEUCfSSANGCIEUCkCHIEUCHhKHIE",
  "UKHhTHIEUTHhPHIEUPHhHIEUHfAaEcYAaEdEObbYEObcObWAaEdOEcYOcUbWEObbIcYUcEUcYIcIiFILLER.HANGUL$SSA",
  "NGNIEUNkNIEUN-TIKEUTgSIOSePANSIOSnRIEUL-KIYEOK-SIOSlTIKEUTgPIEUP-SIOSjANSIOShYEORINHIEUHrMIEUM",
  "-PIEUPfSIOSePANSIOSnKAPYEOUNMIEUMnPIEUP-KIYEOKgTIKEUTgSIOS-KIYEOKgTIKEUTlCIEUCfTHIEUTHnKAPYEOU",
  "NPIEUPfSSANGPIEUPsSIOS-KIYEOKgNIEUNfTIKEUTgPIEUPfCIEUCkPANSIOShSSANGIEUNGkYESIEUNGa-SIOSePANSI",
  "OSqKAPYEOUNPHIEUPHpSSANGHIEUHkYEORINHIEUHkO-YAaEdIdU-YEObcIeARAEAaE(3190).IDEOGRAPHIC ANNOTATI",
  "ON LINKING|mREVERSE|mONE|iTWO|hHREE|kFOUR|jTOP|iMIDDLE|lBOTTOM|lFIRST|kSECOND|lTHIRD|kFOURTH|l",
  "HEAVEN|lEARTH|kMAN|.BOPOMOFO$BUcZIcJIcGUcEEbNNdOObNNdIRcANNdINNdUNNdIMcNGGdAINNdUNNdMcOMbNGdIN",
  "NNlFINAL$PbTbKbHoLETTER GHcLHcZYjFINAL$GoLETTER GWcKWcOEcAH.CJK STROKE TbWGcXGcBXGdSWcHZZbGcPb",
  "ZWGeSZWGeHZTbZPdPWGdZWbZZeNbHbSbPbSPcDbHZbGcSZbWZcTbGcPDbZcTNcSZZcWGdHXWGdZZZGfPGcQ(31F0).KATA",
  "KANA$SMALL KUcSIbUcTOcNUcHAbIbUbEbOcMUcRAbIbUbEbO.PARENTHESIZED HANGUL KIYEOKgNIEUNfTIKEUTgRIE",
  "ULfMIEUMfPIEUPfSIOSeIEUNGfCIEUCeHIEUCHhKHIEUKHhTHIEUTHhPHIEUPHhHIEUHfKIYEOK AiNIEUN AhTIKEUT A",
  "iRIEUL AhMIEUM AhPIEUP AhSIOS AgIEUNG AhCIEUC AgHIEUCH AjKHIEUKH AjTHIEUTH AjPHIEUPH AjHIEUH A",
  "hCIEUC UoKOREAN CHARACTER OJEONe HU(3220)vIDEOGRAPH ONEdTWOcHREEfFOURdIVEeSIXcEVENfEIGHTfNINEe",
  "TENdMOONeFIREeWATEReOODeMETALfEARTHfSUNcTOCKfHAVEeSOCIETYhNAMEeSPECIALhFINANCIALjCONGRATULATIO",
  "NoLABORfREPRESENTjCALLeSTUDYeUPERVISEjENTERPRISEkRESOURCEiALLIANCEiFESTIVALiRESTeSELFeREACH.CI",
  "RCLED IDEOGRAPH QUESTIONiKINDERGARTENmSCHOOLgKOTOoNUMBER TEN ON ~ SQUAREsWENTY ON ~ SQUAREvHIR",
  "TY ON ~ SQUAREwFORTY ON ~ SQUAREuIFTY ON ~ SQUAREvSIXTY ON ~ SQUAREuEVENTY ON ~ SQUARExEIGHT",
  "Y ON ~ SQUARE.PARTNERSHIP;.CIRCLED NUMBER TWENTY ONEdTWOcHREEfFOURdIVEeSIXcEVENfEIGHTfNINEkHIR",
  "TYa ONEdTWOcHREEfFOURdIVEsHANGUL KIYEOKgNIEUNfTIKEUTgRIEULfMIEUMfPIEUPfSIOSeIEUNGfCIEUCeHIEUCH",
  "hKHIEUKHhTHIEUTHhPHIEUPHhHIEUHfKIYEOK AiNIEUN AhTIKEUT AiRIEUL AhMIEUM AhPIEUP AhSIOS AgIEUN",
  "G AhCIEUC AgHIEUCH AjKHIEUKH AjTHIEUTH AjPHIEUPH AjHIEUH AoKOREAN CHARACTER CHAMKOgJUEUIwHANGU",
  "L IEUNG U.KOREAN STANDARD_.CIRCLED IDEOGRAPH ONEdTWOcHREEfFOURdIVEeSIXcEVENfEIGHTfNINEeTENdMOO",
  "NeFIREeWATEReOODeMETALfEARTHfSUNcTOCKfHAVEeSOCIETYhNAMEeSPECIALhFINANCIALjCONGRATULATIONoLABOR",
  "fSECRETgMALEeFEMALEgSUITABLEiEXCELLENTjPRINTfATTENTIONjITEMeRESTeCOPYcRRECThHIGHeCENTREgLOWcEF",
  "Te*fMEDICINEiRELIGIONiSTUDYeUPERVISEjENTERPRISEkRESOURCEiALLIANCEiNIGHTpNUMBER THIRTY SIXcEVEN",
  "fEIGHTfNINElFORTYa ONEdTWOcHREEfFOURdIVEeSIXcEVENfEIGHTfNINEjIFTY.IDEOGRAPHIC TELEGRAPH_ FOR J",
  "ANUARYhFEBRUARYiMARCHfAPRILfMAYdJUNEcLYeAUGUSTgSEPTEMBERjOCTOBERhNOVEMBERiDECEMBER.SQUARE HGcE",
  "RGcV.LIMITED LIABILITY;.CIRCLED KATAKANA AbIbUbEbObKAbIbUbEbOcSAbIbUbEbOcTAbIbUbEbOcNAbIbUbEbO",
  "cHAbIbUbEbOcMAbIbUbEbOcYAbUbOcRAbIbUbEbOcWAbIbEbO.SQUARE ERA NAME REIWAoAPAATOfRUHUAfNPEAeARUe",
  "ININGUeTIeUONdESUKUUDOhEKAAfONSUdOMUeKAIRIdRATTOeORIIhGARONdNMAeIGAcNIIfKYURIIgGIRUDAAhKIROaGU",
  "RAMUgMEETORUhWATTOjGURAMUaTONjKURUZEIROgOONEgEESUeORUNAeOPOfSAIKURUfNTIIMUhIRINGUgENTIbOfDAASU",
  "eESIdORUeTONdNANOdOTTOfHAITUfPAASENTOfTUfBAARERUhPIASUTORUhKURUdOeBIRUeHUARADDOgIITOgBUSSYERUi",
  "HURANeEKUTAARUjPESOcNIHIgHERUTUgPENSUdEZIfBEETAfPOINTOgBORUTOgHONdPONDOfHOORUcNeMAIKUROeRUdHHA",
  "dRUKUeNSYONgIKURONfRIaBAARUiEGAaTONfETORUhYAADOcRUeUANeRITTORUfRAdUPIIdUBURUgEMUcNTOGENiWATTO.",
  "IDEOGRAPHIC TELEGRAPH_ FOR HOUR ZEROeONEdTWOcHREEfFOURdIVEeSIXcEVENfEIGHTfNINEeTENdELEVENgTWEL",
  "VEfHIRTEENiFOURTEENhIFTEENhSIXTEENgEVENTEENjEIGHTEENiNINETEENiTWENTYa-ONEdTWOcHREEfFOUR.SQUAR",
  "E HPAdDAcAUcBARdOVcPCcDMa SQUAREDhCUBEDiIUcERA NAME HEISEIgSYOUWAgTAISYOUhMEIZIoCORPORATIONlP",
  "A AMPShNAcMU AdAcKAbBcMBcGBcCALdKCALePFcNFcMU FbGdGcKGcHZcKHZdMHZdGHZdTHZdMU LdLcDLcKLcFMcNMcM",
  "U MdMcCMcKMcMM SQUAREDkCM SQUAREDkM SQUAREDjKM SQUAREDkMM CUBEDiCM CUBEDiM CUBEDhKM CUBEDiM OV",
  "ER Sa SQUAREDqPAcKPAdMPAdGPAdRADa OVER Sa SQUAREDsPScNScMU SdScPVcNVcMU VdVcKVcMV MEGAhPWcNWcM",
  "U WdWcKWcMW MEGAhK OHMfM OHMfAMcBQcCCbDb OVER KGiOcDBcGYcHAbPcINcKKbM CAPITALjTcLMbNbOGcXcMB S",
  "MALLhILcOLdPHbMbPMcRcSRbVcWBcV OVER MiA OVER M.IDEOGRAPHIC TELEGRAPH_ FOR DAY ONEdTWOcHREEfFOU",
  "RdIVEeSIXcEVENfEIGHTfNINEeTENdELEVENgTWELVEfHIRTEENiFOURTEENhIFTEENhSIXTEENgEVENTEENjEIGHTEENi",
  "NINETEENiTWENTYa-ONEdTWOcHREEfFOURdIVEeSIXcEVENfEIGHTfNINEkHIRTYa-ONE.SQUARE GAL(4DC0).HEXAGRA",
  "M FOR THE CREATIVE HEAVENpRECEPTIVE EARTHtDIFFICULTY AT THE BEGINNING.HEXAGRAM FOR YOUTHFUL FO",
  "LLYoWAITINGhCONFLICTiTHE ARMYiHOLDING TOGETHERqSMALL TAMINGmTREADINGiPEACEfSTANDSTILLkFELLOWSH",
  "IPkGREAT POSSESSIONqMODESTYhENTHUSIASMkFOLLOWINGjWORK ON THE DECAYEDtAPPROACHiCONTEMPLATIONnBI",
  "TING THROUGHoGRACEfSPLITTING APARTpRETURNgINNOCENCEjGREAT TAMINGmMOUTH CORNERSnGREAT PREPONDER",
  "ANCEtTHE ABYSMAL WATERnCLINGING FIRErINFLUENCEjDURATIONiRETREAThGREAT POWERlPROGRESSiDARKENIN",
  "G OF THE LIGHTwTHE FAMILYkOPPOSITIONjBSTRUCTIONlDELIVERANCEjCREASEiINCREASEiBREAKTHROUGHmCOMIN",
  "G TO MEEToGATHERING TOGETHERsPUSHING UPWARDoOPPRESSIONkTHE WELLiREVOLUTIONkTHE CAULDRONiAROUSI",
  "NG THUNDERqKEEPING STILL MOUNTAIN.HEXAGRAM FOR DEVELOPMENTlTHE MARRYING MAIDENtABUNDANCEjTHE W",
  "ANDERERiGENTLE WINDlJOYOUS LAKEpDISPERSIONkLIMITATIONkINNER TRUTHlSMALL PREPONDERANCEtAFTER CO",
  "MPLETIONqBEFORE COMPLETION(A000).YI SYLLABLE ITbXbaPbETbXbaPdATbXbaPcUOXbaPdOTbXbaPcEXbbWUcBIT",
  "bXbaPbETbXbaPdATbXbaPcUOXbaPdOTbXbaPcEXbaPcUTbXbaPbRXbcYTbXbaPbRXbdPITbXbaPbEXbaPdATbXbaPcUOXb",
  "aPdOTbXbaPcUTbXbaPbRXbcYTbXbaPbRXbdBBITbXbaPbETbXbaPdATbXbaPcUOXbaPdOTbXbaPcEXbaPcUTbXbaPbRXbc",
  "YTbXbaPeNBITbXbaPbEXbaPdATbXbaPcOTbXbaPcUTbXbaPbRXbcYTbXbaPbRXbeHMITbXbaPbEXbaPdATbXbaPcUOXbaP",
  "dOTbXbaPcUTbXbaPbRXbcYXbaPbRXbeMITbXbaPbEXbaPdATbXbaPcUOTbXbaPdOTbXbaPcEXbbUTbXbaPbRXbcYTbXbaP",
  "dFITbXbaPcATbXbaPcOXbaPcUTbXbaPbRXbcYTbXbaPdVITbXbaPbETbXbaPdATbXbaPcOTbXbaPcEXbPcUTbXbaPbRXbc",
  "YTbXbaPbRXbdDITbXbaPbEXbaPdATbXbaPcUOXbcOTbXbaPcEXbaPcUTbXbaPbRXbdTITbXbaPbEXbaPdATbXbaPcUOTbX",
  "baPdOTbXbaPcEXbaPcUTbXbaPbRXbdDDITbXbaPbEXbaPdATbXbaPcUOXbaPdOTbXbaPcEXbaPcUTbXbaPbRXbeNDITbXb",
  "aPbEXbcATbXbaPcOTbXbaPcEXbaPcUTbXbaPbRXbeHNITbXbaPbETbXbaPdATbXbaPcUOXbcOTbXbPcEXbaPcUTeNITbXb",
  "aPbEXbaPdAXbaPcUOXbaPdOTbXbaPcEXbaPcUTbXbaPbRXbdHLITbXbaPbEXbaPdATbXbaPcUOXbaPdOXbaPcEXbaPcUTb",
  "XbaPbRXbcYTbXbaPbRXbeLITbXbaPbETbXbaPdATbXbaPcUOTbXbaPdOTbXbaPcEXbaPcUTbXbaPbRXbcYTbXbaPbRXbdG",
  "ITbXbaPbETbXbaPdATbXbaPcUOTbXbaPdOTbXbaPcETbXbaPcUTbXbaPbRXbdKITbXbaPbEXbaPdATbXbaPcUOXbaPdOTb",
  "XbaPcETbXbaPcUTbXbaPbRXbdGGITbXbaEXbaPdATbXbaPcUOTbXbaPdOTbXbaPcETbXbaPcUTbXbaPbRXbeMGIEXbcATb",
  "XbaPcUOXbaPdOTbXbaPcEXbaPcUTbXbaPbRXbeHXITbXbaPbETbXbaPdATbXbaPcUOTbXbaPdOTbXbaPcEXbaPeNGIEXba",
  "PdATbXbaPcUOTbXbcOTbXbaPcEXbaPeHITbEXbcATbXbaPcUOTbXbaPdOTbXbaPcEXbaPdWATbXbaPcUOXbaPdOXbaPcEX",
  "baPdZITbXbaPbEXbaPdATbXbaPcUOXbaPdOTbXbaPcEXbaPcUTbXbaPbRXbcYTbXbaPbRXbdCITbXbaPbETbXbaPdATbXb",
  "aPcUOXbaPdOTbXbaPcEXbaPcUTbXbaPbRXbcYTbXbaPbRXbdZZITbXbaPbETbXbaPdATbXbaPcOXbaPcEXbaPcUXbaPbRX",
  "bcYTbXbaPbRXbeNZITbXbaPbEXbaPdATbXbaPcUOXbcOXbPcEXbbUXbaPbRXbcYTbXbaPbRXbeSITbXbaPbEXbaPdATbXb",
  "aPcUOXbaPdOTbXbaPcEXbaPcUTbXbaPbRXbcYTbXbaPbRXbcSITbXbaPbEXbaPdATbXbaPcOTbXbaPcEXbaPcUTbXbaPcY",
  "TbXbaPbRXbeZHATbXbaPcUOXbaPdOTbXbaPcETbXbaPcUTbXbaPbRXbcYTbXbaPbRXbeCHATbXbaPcUOTbXbaPdOTbXbaP",
  "cETbXbaPcUXbaPbRXbcYTbXbaPbRXbeRRAXbbUOXbcOTbXbaPcETbXbaPcUTbXbaPbRXbcYTbXbaPbRXbeNRATbXbaPcOX",
  "baPcETbXbaPcUTbXbaPbRXbcYTbXbaPbRXbeSHATbXbaPcUOXbaPdOTbXbaPcETbXbaPcUTbXbaPbRXbcYTbXbaPbRXbeR",
  "ATbXbaPcUOXbaPdOTbXbaPcEXbaPcUTbXbaPbRXbcYTbXbaPbRXbdJITbXbaPbETbXbaPdUOTbXbaPdOTbXbaPcUTbXbaP",
  "bRXbcYTbXbaPbRXbdQITbXbaPbETbXbaPdUOTbXbaPdOTbXbaPcUTbXbaPbRXbcYTbXbaPbRXbdJJITbXbaPbETbXbaPdU",
  "OXbaPdOTbXbaPcUTbXbaPbRXbcYTbXbaPeNJITbXbaPbETbXbaPdUOXbcOTbXbaPcUXbaPbRXbcYTbXbaPbRXbdYITbXba",
  "PbETbXbaPdUOXbaPdOTbXbaPcUTbXbaPeXITbXbaPbETbXbaPdUOXbcOTbXbaPcYTbXbaPbRXbdYITbXbaPbETbXbaPdUO",
  "TbXbaPdOTbXbaPcUTbXbaPbRXbcYTbXbaPbRXb(A490)mRADICAL QOTdLIcKITdNYIPeCYPdSSIdGGOPdEPdMIcHXITeL",
  "YRdBBUTeMOPdYOcPUTdHXUOeTATdGAcZUPdCYTdDDUReBURdGGUOeNYOPeTUcOPcJJUTeZOTdPYTdHMOdYITdVURdSHYdV",
  "EPdZAcJOcNZUPeJJYdGOTdJJIEeWOcDUcSHUReLIEdCYbUOPdIPdHXOPeSHATeZURdSHOPeCHEdZZIETfNBIEeKE(A4D0)",
  ".LISU$BAcPAbHAdDAcTAbHAdGAcKAbHAdJAcCAbHAdDZAdTSAbHAeMAcNAcLAcSAcZHAcAcNGAdHAcXAcHHAdFAcWAcSHA",
  "dYAcGHAdAaEcEaUcIbObUaEbHcOEcTONE MYA TIgNA POfMYA CYAdBOcNAcJEUtPUNCTUATION COMMAfFULL STOP.V",
  "AI SYLLABLE EEaNdHEEdWEEaNePEEdBHEEdEEdMBEEeKPEEeMGBEEfGBEEeFEEdVEEdTEEcHEEeDHEEcHEEfLEEdREEdD",
  "EEdNDEEeSEEcHEEeZEEcHEEeCEEdJEEdNJEEeYEEdKEEdNGGEEfGEEdMEEdNEEcYEEeIaNcHIaNdWIaNdPIcBHIcIcMBId",
  "KPIdMGBIeGBIdFIcVIcTIbHIdDHIbHIeLIcRIcDIcNDIdSIbHIdZIbHIdCIcJIcNJIdYIcKIcNGGIeGIcMIcNIbYIdAaNc",
  "NGANeHAaNdWAaNdPAcBHAcAcMBAdKPAaNeMGBAeGBAdFAcVAcTAbHAdDHAbHAeLAcRAcDAcNDAdSAbHAdZAbHAdCAcJAcN",
  "JAdYAcKAaNdNGGAeGAcMAcNAbYAdOOaNdHOOdWOOaNePOOdBHOOdOOdMBOOeKPOOeMGBOOfGBOOeFOOdVOOdTOOcHOOeDH",
  "OOcHOOfLOOdROOdDOOdNDOOeSOOcHOOeZOOcHOOeCOOdJOOdNJOOeYOOdKOOdNGGOOfGOOdMOOdNOOcYOOeUaNcHUaNdWU",
  "aNdPUcBHUcUcMBUdKPUdMGBUeGBUdFUcVUcTUbHUdDHUbHUeLUcRUcDUcNDUdSUbHUdZUbHUdCUcJUcNJUdYUcKUcNGGUe",
  "GUcMUcNUbYUdOaNcNGONeHOaNdWOaNdPOcBHOcOcMBOdKPOdMGBOeGBOaNeFOcVOcTObHOdDHObHOeLOcROcDOcNDOdSOb",
  "HOdZObHOdCOcJOcNJOdYOcKOcNGGOeGOcMOcNObYOdEaNcNGENeHEaNdWEaNdPEcBHEcEcMBEdKPEaNeMGBEeGBEaNeFEc",
  "VEcTEbHEdDHEbHEeLEcREcDEcNDEdSEbHEdZEbHEdCEcJEcNJEdYEcKEcNGGEaNfGEaNdMEcNEbYEcGcLENGTHENERtCOM",
  "MAfFULL STOPjQUESTION|nSYLLABLE NDOLE FAcKAcSOO.VAI_ FEENGfKEENGfTINGeNIIdBANGeFAAdTAAdDANGdOO",
  "NGfKUNGeTONGeDO-OeJONGlDIGIT ZEROeONEdTWOcHREEfFOURdIVEeSIXcEVENfEIGHTfNINEkSYLLABLE NDOLE MAc",
  "DO(A640).CYRILLIC CAPITAL$ZEMLYAvSMALL$ZEMLYAtCAPITAL$DZELOuSMALL$DZELOsCAPITAL$REVERSED DZE.C",
  "YRILLIC SMALL$REVERSED DZEzCAPITAL$IOTAtSMALL$IOTArCAPITAL$DJERVuSMALL$DJERVsCAPITAL$MONOGRAP",
  "H UK.CYRILLIC SMALL$MONOGRAPH UKzCAPITAL$BROAD OMEGA.CYRILLIC SMALL$BROAD OMEGAyCAPITAL$NEUTRA",
  "L YER.CYRILLIC SMALL$NEUTRAL YERyCAPITAL$YERU%BACK YER.CYRILLIC SMALL$YERU%BACK YER.CYRILLIC C",
  "APITAL$IOTIFIED YAT.CYRILLIC SMALL$IOTIFIED YATzCAPITAL$REVERSED YU.CYRILLIC SMALL$REVERSED YU",
  "yCAPITAL$IOTIFIED AzSMALL$IOTIFIED AxCAPITAL$CLOSED LITTLE YUS.CYRILLIC SMALL$CLOSED LITTLE YU",
  "S.CYRILLIC CAPITAL$BLENDED YUS.CYRILLIC SMALL$BLENDED YUSyCAPITAL$IOTIFIED CLOSED LITTLE YUS.C",
  "YRILLIC SMALL$IOTIFIED CLOSED LITTLE YUS.CYRILLIC CAPITAL$YNrSMALL$YNpCAPITAL$REVERSED TSE.CYR",
  "ILLIC SMALL$REVERSED TSEzCAPITAL$SOFT DEwSMALL$SOFT DEuCAPITAL$SOFT ELwSMALL$SOFT ELuCAPITAL$S",
  "OFT EMwSMALL$SOFT EMuCAPITAL$MONOCULAR O.CYRILLIC SMALL$MONOCULAR OyCAPITAL$BINOCULAR O.CYRILL",
  "IC SMALL$BINOCULAR OyCAPITAL$@ MONOCULAR O.CYRILLIC SMALL$@ MONOCULAR O.CYRILLIC$MULTIOCULAR O",
  ".COMBINING CYRILLIC VZMETfTEN MILLIONS;rHUNDRED MILLIONS;vTHOUSAND MILLIONS;.SLAVONIC ASTERISK",
  ".COMBINING CYRILLIC$UKRAINIAN IEmIbYIcUbHARD;jYERUeSOFT;jOMEGAmKAVYKAgPAYEROKzYRILLIC KAVYKAgP",
  "AYEROKhCAPITAL$DWEsSMALL$DWEqCAPITAL$DZWEtSMALL$DZWErCAPITAL$ZHWEtSMALL$ZHWErCAPITAL$CCHEtSMAL",
  "L$CCHErCAPITAL$DZZEtSMALL$DZZErCAPITAL$TE%MIDDLE HOOK.CYRILLIC SMALL$TE%MIDDLE HOOK.CYRILLIC C",
  "APITAL$TWEsSMALL$TWEqCAPITAL$TSWEtSMALL$TSWErCAPITAL$TSSEtSMALL$TSSErCAPITAL$TCHEtSMALL$TCHErC",
  "APITAL$HWEsSMALL$HWEqCAPITAL$SHWEtSMALL$SHWErCAPITAL$@ OxSMALL$@ OvCAPITAL$CROSSED OySMALL$CRO",
  "SSED O.MODIFIER$CYRILLIC HARD;jSOFT;.COMBINING CYRILLIC$EFcIOTIFIED E.BAMUM$AbKAcUbKUcEEcREEdT",
  "AEdObNYIdIbLAcPAcRIIbEEeLEEEEfMEEEEfTAAdNDAAdJAEMfMbSUUdMUcSHIIdIbHEUXeEUXeKYEEdETdNUAEcbJUAEf",
  "YOQdSHUdYUQcAcNSHAeKEUXePEUXeNJEEdTEEePUEdWUEdPEEdFEEdRUcLUcMIcNIcREUXdAEdKENdNGKWAENfGAcAdSHO",
  "dPUAEeFUbOMdWAcNAcLIcPIcLOQdKOcMBENeRENdMENcAcTIcKIcMObBAAeTETdKPAdTENdNTUUeSAMBAfFAAMAEgKOVUU",
  "dGHOMnCOMBINING| KOQNDONhTUKWENTISyNJAEMLIhFULL STOPjCOLONdMMAfSEMICOLONjQUESTION|(A700).MODIF",
  "IER$CHINESE TONE YIN PINGhANG PINGiIN SHANGiANG SHANGjIN QUfANG QUgIN RUfANG RUuEXTRA-HIGH DOT",
  "TED TONE BAR.MODIFIER$HIGH DOTTED TONE BARuMID DOTTED TONE BARtLOW DOTTED TONE BARtEXTRA-LOW D",
  "OTTED TONE BARtHIGH DOTTED >-STEM TONE BAR.MODIFIER$HIGH DOTTED >-STEM TONE BAR.MODIFIER$MID D",
  "OTTED >-STEM TONE BAR.MODIFIER$LOW DOTTED >-STEM TONE BAR.MODIFIER$EXTRA-LOW DOTTED >-STEM TON",
  "E BAR.MODIFIER$EXTRA-HIGH >-STEM TONE BAR.MODIFIER$HIGH >-STEM TONE BARxMID >-STEM TONE BARwLO",
  "W >-STEM TONE BARwEXTRA-LOW >-STEM TONE BAR.MODIFIER$DOT ,BARmSLASHfHORIZONTAL BARsLOWER * COR",
  "NER ANGLEyRAISED UP:iDOWN:kEXCLAMATION|qINVERTED EXCLAMATION|.MODIFIER$LOW INVERTED EXCLAMATIO",
  "N|.MODIFIER$STRESS+HIGH TONEjLOW TONE.LATIN CAPITAL$EGYPTOLOGICAL ALEF.LATIN SMALL$EGYPTOLOGIC",
  "AL ALEF.LATIN CAPITAL$EGYPTOLOGICAL AIN.LATIN SMALL$EGYPTOLOGICAL AIN.LATIN CAPITAL$HENGtSMALL",
  "$HENGrCAPITAL$TZrSMALL$TZpCAPITAL$TRESILLOxSMALL$TRESILLOvCAPITAL$CUATRILLOySMALL$CUATRILLOwCA",
  "PITAL$CUATRILLO%COMMA.LATIN SMALL$CUATRILLO%COMMA.LATIN$SMALL CAPITAL FbSwCAPITAL$AArSMALL$AAp",
  "CAPITAL$AOrSMALL$AOpCAPITAL$AUrSMALL$AUpCAPITAL$AVrSMALL$AVpCAPITAL$AV%HORIZONTAL BAR.LATIN SM",
  "ALL$AV%HORIZONTAL BAR.LATIN CAPITAL$AYrSMALL$AYpCAPITAL$REVERSED C%DOT.LATIN SMALL$REVERSED C%",
  "DOT.LATIN CAPITAL$K%STROKE.LATIN SMALL$K%STROKE.LATIN CAPITAL$K%DIAGONAL STROKE.LATIN SMALL$K%",
  "DIAGONAL STROKE.LATIN CAPITAL$K%STROKE+DIAGONAL STROKE.LATIN SMALL$K%STROKE+DIAGONAL STROKE.LA",
  "TIN CAPITAL$BROKEN LxSMALL$BROKEN LvCAPITAL$L%HIGH STROKE.LATIN SMALL$L%HIGH STROKE.LATIN CAPI",
  "TAL$O%LONG STROKE OVERLAY.LATIN SMALL$O%LONG STROKE OVERLAY.LATIN CAPITAL$O%LOOP.LATIN SMALL$O",
  "%LOOPyCAPITAL$OOrSMALL$OOpCAPITAL$P%STROKE THROUGH DESCENDER.LATIN SMALL$P%STROKE THROUGH DESC",
  "ENDER.LATIN CAPITAL$P%FLOURISH.LATIN SMALL$P%FLOURISH.LATIN CAPITAL$P%SQUIRREL TAIL.LATIN SMAL",
  "L$P%SQUIRREL TAIL.LATIN CAPITAL$Q%STROKE THROUGH DESCENDER.LATIN SMALL$Q%STROKE THROUGH DESCEN",
  "DER.LATIN CAPITAL$Q%DIAGONAL STROKE.LATIN SMALL$Q%DIAGONAL STROKE.LATIN CAPITAL$R ROTUNDAySMAL",
  "L$R ROTUNDAwCAPITAL$RUM ROTUNDA.LATIN SMALL$RUM ROTUNDAyCAPITAL$V%DIAGONAL STROKE.LATIN SMALL$",
  "V%DIAGONAL STROKE.LATIN CAPITAL$VYrSMALL$VYpCAPITAL$VISIGOTHIC Z.LATIN SMALL$VISIGOTHIC ZzCAPI",
  "TAL$THORN%STROKE.LATIN SMALL$THORN%STROKE.LATIN CAPITAL$THORN%STROKE THROUGH DESCENDER.LATIN S",
  "MALL$THORN%STROKE THROUGH DESCENDER.LATIN CAPITAL$VENDtSMALL$VENDrCAPITAL$ETrSMALL$ETpCAPITAL$",
  "ISrSMALL$ISpCAPITAL$CONsSMALL$CON.MODIFIER$US.LATIN SMALL$DUMdLUMdMUMdNUMdRUM.LATIN$SMALL CAPI",
  "TAL RUMySMALL$TUMdUMpCAPITAL$INSULAR DySMALL$INSULAR DwCAPITAL$INSULAR FySMALL$INSULAR FwCAPIT",
  "AL$INSULAR GjTURNED INSULAR G.LATIN SMALL$TURNED INSULAR G.LATIN CAPITAL$TURNED LxSMALL$TURNE",
  "D LvCAPITAL$INSULAR RySMALL$INSULAR RwCAPITAL$INSULAR SySMALL$INSULAR SwCAPITAL$INSULAR TySMAL",
  "L$INSULAR T.MODIFIER$LOW CIRCUMFLEX ACCENTvCOLONfSHORT EQUALS;.LATIN CAPITAL$SALTILLOxSMALL$SA",
  "LTILLOvCAPITAL$TURNED HxSMALL$L%RETROFLEX HOOK+BELT.LATIN$SINOLOGICAL DOTwCAPITAL$N%DESCENDER.",
  "LATIN SMALL$N%DESCENDER.LATIN CAPITAL$C%BARzSMALL$C%BARdPALATAL HOOKtH%PALATAL HOOK.LATIN CAPI",
  "TAL$B%FLOURISH.LATIN SMALL$B%FLOURISH.LATIN CAPITAL$F%STROKE.LATIN SMALL$F%STROKE.LATIN CAPITA",
  "L$VOLAPUK AEzSMALL$VOLAPUK AExCAPITAL$VOLAPUK OEzSMALL$VOLAPUK OExCAPITAL$VOLAPUK UEzSMALL$VOL",
  "APUK UExCAPITAL$G%OBLIQUE STROKE.LATIN SMALL$G%OBLIQUE STROKE.LATIN CAPITAL$K%OBLIQUE STROKE.L",
  "ATIN SMALL$K%OBLIQUE STROKE.LATIN CAPITAL$N%OBLIQUE STROKE.LATIN SMALL$N%OBLIQUE STROKE.LATI",
  "N CAPITAL$R%OBLIQUE STROKE.LATIN SMALL$R%OBLIQUE STROKE.LATIN CAPITAL$S%OBLIQUE STROKE.LATIN S",
  "MALL$S%OBLIQUE STROKE.LATIN CAPITAL$H%HOOKlREVERSED OPEN EpSCRIPT GiL%BELTlSMALL CAPITAL I.LAT",
  "IN$SMALL CAPITAL QwCAPITAL$TURNED KbTiJ%CROSSED-TAILtCHIdBETAtSMALL$BETArCAPITAL$OMEGAuSMALL$O",
  "MEGAsCAPITAL$U%STROKE.LATIN SMALL$U%STROKE.LATIN CAPITAL$GLOTTAL AySMALL$GLOTTAL AwCAPITAL$GLO",
  "TTAL IySMALL$GLOTTAL IwCAPITAL$GLOTTAL UySMALL$GLOTTAL UwCAPITAL$OLD POLISH O.LATIN SMALL$OL",
  "D POLISH OzCAPITAL$ANGLICANA W.LATIN SMALL$ANGLICANA WyCAPITAL$C%PALATAL HOOKtS%HOOKlZ%PALATA",
  "L HOOKtD%SHORT STROKE OVERLAY.LATIN SMALL$D%SHORT STROKE OVERLAY.LATIN CAPITAL$S%SHORT STROK",
  "E OVERLAY.LATIN SMALL$S%SHORT STROKE OVERLAY(A7D0).LATIN CAPITAL$CLOSED INSULAR G.LATIN SMALL$",
  "CLOSED INSULAR G(A7D3)q@ THORN(A7D5)fWYNNyCAPITAL$MIDDLE SCOTS S.LATIN SMALL$MIDDLE SCOTS S.LA",
  "TIN CAPITAL$SIGMOID SySMALL$SIGMOID S(A7F2).MODIFIER$CAPITAL CbFbQ.LATIN CAPITAL$REVERSED HAL",
  "F H.LATIN SMALL$REVERSED HALF H.LATIN EPIGRAPHIC$SIDEWAYS I.MODIFIER$CAPITAL H%STROKEvSMALL LI",
  "GATURE OE.LATIN$SMALL CAPITAL TURNED M.LATIN EPIGRAPHIC$REVERSED FbPkINVERTED Mj LONGAhARCHAI",
  "C M.SYLOTI NAGRI$AbIiSIGN DVISVARAnLETTER UbEbOiSIGN HASANTAmLETTER KObHOdGObHOkSIGN ANUSVARAn",
  "LETTER CObHOdJObHOdTTObHOeDDObHOeTObHOdDObHOdNOcPObHOdBObHOdMOcROcLOcRROdSOcHOjVOWEL; AbIbUbEb",
  "OOnPOETRY|-1b2b3b4nSIGN ALTERNATE HASANTA(A830).NORTH INDIC FRACTION ONE QUARTERhHALFiTHREE QU",
  "ARTERSoONE SIXTEENTHjEIGHTHkTHREE SIXTEENTHSzQUARTER|mPLACEHOLDER|qRUPEE|kQUANTITY|(A840).PHAG",
  "S-PA$KAbHAdGAcNGAdCAbHAdJAcNYAdTAbHAdDAcNAcPAbHAdBAcMAcTSAbHAeDZAdWAcZHAcAcSMALL AhYAcRAcLAcSH",
  "AcAcHAcAbIbUbEbObQAcXAcFAcGGAdEEjSUBJOINED$WAcYAtLETTER TTAbHAeDDAdNNAdALTERNATE YAmVOICELES",
  "S SHAiD HAjASPIRATED FAtSUBJOINED$RArPERFIXED$RAuLETTER CANDRABINDUsSINGLE HEAD|q@ HEAD|qMAR",
  "K SHADe@ SHAD(A880).SAURASHTRA; ANUSVARAiVISARGAmLETTER AaAcIaIcUaUcVOCALIC RaRcLaLkEaEcAIcOaO",
  "cAUcKAbHAdGAbHAdNGAdCAbHAdJAbHAdNYAdTTAbHAeDDAbHAeNNAdTAbHAdDAbHAdNAcPAbHAdBAbHAdMAcYAcRAcLAcV",
  "AcSHAcSAcAcHAcLLAkCONSONANT; HAARUuVOWEL; AAcIaIcUaUcVOCALIC RaRcLaLkEaEcAIcOaOcAUnSIGN VIRAMA",
  "gCANDRABINDU(A8CE)qDANDAeOUBLE DANDAlIGIT ZEROeONEdTWOcHREEfFOURdIVEeSIXcEVENfEIGHTfNINE(A8E0)",
  ".COMBINING DEVANAGARI DIGIT ZEROeONEdTWOcHREEfFOURdIVEeSIXcEVENfEIGHTfNINEkLETTER AbUbKAcNAcPA",
  "cRAcVIjSIGN AVAGRAHA.DEVANAGARI; SPACING CANDRABINDUtCANDRABINDU VIRAMAs@ CANDRABINDU VIRAMAzC",
  "ANDRABINDU TWOcHREEfAVAGRAHAuPUSHPIKAnGAP FILLERkCARETfHEADSTROKEkSIGN SIDDHAMmJAIN OMhLETTE",
  "R AYjVOWEL; AY.KAYAH LI DIGIT ZEROeONEdTWOcHREEfFOURdIVEeSIXcEVENfEIGHTfNINEkLETTER KAbHAdGAcN",
  "GAdSAbHAdZAcNYAdTAcHTAdNAcPAbHAdMAcDAcBAcRAcYAcLAcWAcTHAdHAcVAcCAcAbOEcIbOOjVOWEL UEcEbUbEEcOh",
  "TONE PLOPHUgCALYAa PLOPHUrSIGN CWIdSHYA.REJANG$KAcGAcNGAdTAcDAcNAcPAcBAcMAcCAcJAcNYAdSAcRAcLAc",
  "YAcWAcHAcMBAdNGGAdDAcYJAeAiVOWEL; IbUbEbAIcObAUcEUbAnCONSONANT; NGbbRbHqVIRAMA(A95F)gSECTION|.",
  "HANGUL CHOSEONG TIKEUT-MIEUMfPIEUPfSIOSeCIEUCmRIEUL-KIYEOKgSSANGKIYEOKlTIKEUTgSSANGTIKEUTlMIEU",
  "MfPIEUPfSSANGPIEUPkKAPYEOUNPIEUPnSIOSeCIEUCfKHIEUKHnMIEUM-KIYEOKgTIKEUTgSIOSkPIEUP-SIOS-THIEUT",
  "HmKHIEUKHhHIEUHlSSANGSIOS-PIEUPpIEUNG-RIEULfHIEUHlSSANGCIEUC-HIEUHlTHIEUTHmPHIEUPH-HIEUHnHIEUH",
  "-SIOSkSSANGYEORINHIEUH(A980).JAVANESE; PANYANGGAjCECAKfLAYARfWIGNYANmLETTER AbI KAWIfaIcUbPA C",
  "EREKiNGA LELETa RASWADIrEbAIcObKAa SASAKfMURDAiGAa MURDAiNGAdCAa MURDAiJAcNYA MURDAjJA MAHAPRA",
  "NAmNYAdTTAa MAHAPRANAnDDAa MAHAPRANAnNA MURDAiTAa MURDAiDAa MAHAPRANAmNAcPAa MURDAiBAa MURDAiM",
  "AcYAcRAa AGUNGiLAcWAcSA MURDAeAHAPRANAkcHAjSIGN CECAK TELUpVOWEL; TARUNGfOLONGgWULUa MELIKkSUK",
  "Ua MENDUTlTALINGgDIRGA MUREkPEPETqCONSONANT; KERETfPENGKALhCAKRAuPANGKONh> RERENGGANo* RERENGG",
  "ANpPADA ANDAPfMADYAfLUHURfWINDUfPANGKAThLINGSAfUNGSIgADEGa ADEGjPISELEHmTURNED PADA PISELEH(A9",
  "CF)tPANGRANGKEPlDIGIT ZEROeONEdTWOcHREEfFOURdIVEeSIXcEVENfEIGHTfNINE(A9DE)kPADA TIRTA TUMETESn",
  "ISEN-ISEN.MYANMAR$SHAN GHAdCHAdJHAdNNAdBHApSIGN SHAN SAWnMODIFIER$SHAN REDUPLICATION.MYANMAR$T",
  "AI LAING NYAdFAcGAbHAdJAbHAdDDAbHAeNNAuTAI LAING DIGIT ZEROeONEdTWOcHREEfFOURdIVEeSIXcEVENfEIG",
  "HTfNINEuLETTER TAI LAING LLAdDAbHAdBAbHA(AA00).CHAM$AbIbUbEbAIcObKAbHAdGAbHAdNGUEcAdCHAbHAeJAb",
  "HAdNHUEcAbJAeTAbHAdDAbHAdNUEcAcDDAdPAbPAcHAdBAbHAdMUEcAcBBAdYAcRAcLAcVAcSSAcAcHAjVOWEL; AAcIaI",
  "cEIcUbOEbbAIbUcUEnCONSONANT; YAcRAcLAcWA(AA40).CHAM$FINAL KbGbNGpCONSONANT; FINAL NG.CHAM$FINA",
  "L CHcTbNbPbYbRbLbSSpCONSONANT; FINAL MbH(AA50)wDIGIT ZEROeONEdTWOcHREEfFOURdIVEeSIXcEVENfEIGHT",
  "fNINE(AA5C)kPUNCTUATION SPIRALgDANDAeOUBLE DANDAmTRIPLE DANDA.MYANMAR$KHAMTI GAcCAbHAdJAbHAdNY",
  "AdTTAbHAeDDAbHAdHAdNAcSAcHAbHAdFAqMODIFIER$KHAMTI REDUPLICATION.MYANMAR$KHAMTI XAcZAcRApOGOGRA",
  "M KHAMTI OAYdQNcHMsSYMBOL AITON EXCLAMATIONlONEdTWOqLETTER AITON RApSIGN PAO KAREN TONEoTAI LA",
  "ING TONE-2b5vLETTER SHWE PALAUNG CHAdSHA.TAI VIET$LOW KOgHIGH KOhLOW KHOhHIGH KHOiLOW KHHOiHIG",
  "H KHHOjLOW GOgHIGH GOhLOW NGOhHIGH NGOiLOW COgHIGH COhLOW CHOhHIGH CHOiLOW SOgHIGH SOhLOW NYOh",
  "HIGH NYOiLOW DOgHIGH DOhLOW TOgHIGH TOhLOW THOhHIGH THOiLOW NOgHIGH NOhLOW BOgHIGH BOhLOW POgH",
  "IGH POhLOW PHOhHIGH PHOiLOW FOgHIGH FOhLOW MOgHIGH MOhLOW YOgHIGH YOhLOW ROgHIGH ROhLOW LOgHIG",
  "H LOhLOW VOgHIGH VOhLOW HOgHIGH HOhLOW OfHIGH OnMAI KANGiVOWEL AAcIbUEbbEbOhMAI KHITiVOWEL IAc",
  "UEAcAcAUEcYbNbMiTONE MAI EKcNUENGfTHOdSONG(AADB)nSYMBOL KONdNUENGfSAMdHO HOIgKOI KOI.MEETEI MA",
  "YEK$EbObCHAdNYAdTTAbHAeDDAbHAeNNAdSHAcSAkVOWEL; IIcUUcAAIcUbAUoCHEIKHANiAHANG KHUDAMlNJIeSYLLA",
  "BLE REPETITION|yWORD REPETITION|uVOWEL; VISARGArIRAMA(AB01).ETHIOPIC SYLLABLE TTHUbIbAAcEEbbO(",
  "AB09)eDDHUbIbAAcEEbbO(AB11)dZUbIbAAcEEbbO(AB20)dCCHHAbUbIbAAcEEbbO(AB28)fBBAbUbIbAAcEEbbO(AB30",
  ").LATIN SMALL$BARRED ALPHAmA REVERSED-SCHWAq~LETTER EmARRED EiE%FLOURISHpLENIS FhSCRIPT G%CROS",
  "SED-TAIL.LATIN SMALL$L%INVERTED LAZY Sp@ MIDDLE TILDEtMIDDLE RINGsM%CROSSED-TAILtN%CROSSED-TAI",
  "LtENG%CROSSED-TAILv~LETTER Oa%STROKEzOPEN O%STROKEsINVERTED OElTURNED OE%STROKEgHORIZONTAL STR",
  "OKEy OPEN-Oa%STROKE.LATIN SMALL$STIRRUP R.LATIN$SMALL CAPITAL R%* LEG.LATIN SMALL$R WITHOUT HA",
  "NDLEq@ RiR%CROSSED-TAILt@ R%CROSSED-TAIL.LATIN SMALL$SCRIPT Ra%RINGsBASELINE ESHmU%SHORT * LEG",
  "uBAR%SHORT * LEGzIcTURNED UIjU%> HOOKqCHIa%LOW * RINGk> SERIFxX%LOW * RINGmNG > LEGa+LOW * RIN",
  "GsWITH SERIF.LATIN SMALL$Y%SHORT * LEG.MODIFIER BREVE%INVERTED BREVEzLETTER SMALL HENGeL%INVER",
  "TED LAZY SpMIDDLE TILDEtU%> HOOK.LATIN SMALL$SAKHA YATjIOTIFIED EkOPEN OEhUOcINVERTED ALPHA.GR",
  "EEK$SMALL CAPITAL OMEGA.LATIN SMALL$DZ DIGRAPH%RETROFLEX HOOK.LATIN SMALL$TS DIGRAPH%RETROFLE",
  "X HOOK.LATIN SMALL$TURNED R%MIDDLE TILDE.MODIFIER$SMALL TURNED Wo> TACKj* TACK(AB70).CHEROKE",
  "E SMALL$AbEbIbObUbVbGAcKAcGEbIbObUbVcHAbEbIbObUbVcLAbEbIbObUbVcMAbEbIbObUcNAcHNAdNAHcEbIbObUbV",
  "cQUAbEbIbObUbVdSAbaEbIbObUbVcDAcTAcDEcTEcDIcTIcDObUbVbLAdTLAbEbIbObUbVcSAbEbIbObUbVdWAbEbIbObU",
  "bVcYA.MEETEI MAYEK$KOKdSAMdLAIdMITdPAcNAcCHILeTILdKHOUeNGOUeTHOUeWAIdYANGeHUKdUNcIbPHAMeATIYAf",
  "GOKdJHAMeRAIdBAcJILdDILdGHOUeDHOUeBHAMeKOK LONSUMkLAI LONSUMkMIT LONSUMkPA LONSUMjNA LONSUMjTI",
  "L LONSUMkNGOU LONSUMlI LONSUMpVOWEL; ONAPeINAPeANAPeYENAPfSOUNAPgUNAPeCHEINAPhNUNGpCHEIKHEIiLU",
  "M IYEKiAPUN IYEK(ABF0)jDIGIT ZEROeONEdTWOcHREEfFOURdIVEeSIXcEVENfEIGHTfNINE(D7B0).HANGUL JUNGS",
  "EONG O-YEOdO-IfYO-AaEcEOfU-YEOdI-IfYU-AEcOeEU-AbEObbOeI-YA-OcEcEObcO-IdYObUcIdARAEA-AbE(D7CB)q",
  "ONGSEONG NIEUN-RIEULfCHIEUCHnSSANGTIKEUTa-PIEUPrTIKEUT-PIEUPfSIOSa-KIYEOKlCIEUCeHIEUCHhTHIEUTH",
  "oRIEUL-SSANGKIYEOKlKIYEOK-HIEUHsSSANGRIEUL-KHIEUKHsRIEUL-MIEUM-HIEUHlPIEUP-TIKEUTgPHIEUPHnYESI",
  "EUNGgORINHIEUH-HIEUHxKAPYEOUNRIEULnMIEUM-NIEUNfSSANGNIEUNqSSANGMIEUMkMIEUM-PIEUP-SIOSkCIEUClPI",
  "EUP-TIKEUTgRIEUL-PHIEUPHnMIEUMlSSANGPIEUPkPIEUP-SIOS-TIKEUTlCIEUCeHIEUCHnSIOS-MIEUMfKAPYEOUNPI",
  "EUPrSANGSIOS-KIYEOKgTIKEUTpIOS-PANSIOShCIEUCeHIEUCHhTHIEUTHhHIEUHkPANSIOS-PIEUPfKAPYEOUNPIEUPv",
  "YESIEUNG-MIEUMfHIEUHoCIEUC-PIEUPfSSANGPIEUPqSSANGCIEUCkPHIEUPH-SIOSeTHIEUTH(FB00).LATIN SMAL",
  "L LIGATURE FFbIbLbFIbLdLONG S TiST(FB13).ARMENIAN SMALL LIGATURE MEN NOWdECHdINIhVEW NOWhMEN X",
  "EH(FB1D).HEBREW$YOD%HIRIQvPOINT JUDEO-SPANISH VARIKA.HEBREW LIGATURE YIDDISH YOD YOD PATAH.HEB",
  "REW$ALTERNATIVE AYINqWIDE ALEFeDALETfHEcKAFdLAMEDfFINAL MEMjRESHeTAViALTERNATIVE PLUS;vSHIN%SH",
  "IN DOThIN DOThDAGESH+SHIN DOThIN DOT.HEBREW$ALEF%PATAHfQAMATSgMAPIQpBET%DAGESHpGIMEL%DAGESHrDA",
  "LET%DAGESHrHE%MAPIQnVAV%DAGESHpZAYIN%DAGESH(FB38)rTET%DAGESHpYOD%DAGESHpFINAL KAF%DAGESHvKAF%D",
  "AGESHpLAMED%DAGESH(FB3E)rMEM%DAGESH(FB40)pNUN%DAGESHpSAMEKH%DAGESH(FB43)sFINAL PE%DAGESHuPE%DA",
  "GESH(FB46)oTSADI%DAGESHrQOF%DAGESHpRESH%DAGESHqSHIN%DAGESHqTAV%DAGESHpVAV%HOLAMoBET%RAFEnKAF%R",
  "AFEnPE%RAFEsIGATURE ALEF LAMED.ARABIC$ALEF WASLA ISOLATED&nFINAL&vBEEH ISOLATED&nFINAL&kINITIA",
  "L&mMEDIAL&qPEH ISOLATED&nFINAL&kINITIAL&mMEDIAL&pBEHEH ISOLATED&nFINAL&kINITIAL&mMEDIAL&rTTEHE",
  "H ISOLATED&nFINAL&kINITIAL&mMEDIAL&rEHEH ISOLATED&nFINAL&kINITIAL&mMEDIAL&qTEH ISOLATED&nFINAL",
  "&kINITIAL&mMEDIAL&qVEH ISOLATED&nFINAL&kINITIAL&mMEDIAL&pPEHEH ISOLATED&nFINAL&kINITIAL&mMEDIA",
  "L&rDYEH ISOLATED&nFINAL&kINITIAL&mMEDIAL&qNYEH ISOLATED&nFINAL&kINITIAL&mMEDIAL&qTCHEH ISOLATE",
  "D&nFINAL&kINITIAL&mMEDIAL&mEH ISOLATED&nFINAL&kINITIAL&mMEDIAL&tDDAHAL ISOLATED&nFINAL&qAHAL I",
  "SOLATED&nFINAL&pUL ISOLATED&nFINAL&nDAL ISOLATED&nFINAL&pJEH ISOLATED&nFINAL&oRREH ISOLATED&nF",
  "INAL&pKEHEH ISOLATED&nFINAL&kINITIAL&mMEDIAL&rGAF ISOLATED&nFINAL&kINITIAL&mMEDIAL&oUEH ISOLAT",
  "ED&nFINAL&kINITIAL&mMEDIAL&qNGOEH ISOLATED&nFINAL&kINITIAL&mMEDIAL&qOON GHUNNA ISOLATED&nFINAL",
  "&wRNOON ISOLATED&nFINAL&kINITIAL&mMEDIAL&rHEH%YEH< ISOLATED&nFINAL&zGOAL ISOLATED&nFINAL&kINIT",
  "IAL&mMEDIAL&qDOACHASHMEE ISOLATED&nFINAL&kINITIAL&mMEDIAL&.ARABIC$YEH BARREE ISOLATED&nFINAL&k",
  "WITH HAMZA< ISOLATED&nFINAL&.ARABIC_ DOT<fBELOWjTWO DOTS<fBELOWnHREE DOTS<fBELOWfPOINTING DOWN",
  "WARDS<fBELOW.ARABIC_ FOUR DOTS<fBELOWp@ ,BAR=zTWO DOTS VERTICALLY<fBELOWzRINGeSMALL TAH<fBELOW",
  "pWASLA<(FBD3).ARABIC$NG ISOLATED&nFINAL&kINITIAL&mMEDIAL&oU ISOLATED&nFINAL&mOE ISOLATED&nFINA",
  "L&nYU ISOLATED&nFINAL&nU%HAMZA< ISOLATED&.ARABIC$VE ISOLATED&nFINAL&nKIRGHIZ OE ISOLATED&nFINA",
  "L&nYU ISOLATED&nFINAL&vE ISOLATED&nFINAL&kINITIAL&mMEDIAL&nUIGHUR KAZAKH KIRGHIZ ALEF MAKSUR",
  "A INITIAL&mMEDIAL&.ARABIC LIGATURE YEH%HAMZA<%ALEF ISOLATED&nFINAL&oE ISOLATED&nFINAL&nWAW ISO",
  "LATED&nFINAL&oU ISOLATED&nFINAL&mOE ISOLATED&nFINAL&nYU ISOLATED&nFINAL&nE ISOLATED&nFINAL&kIN",
  "ITIAL&.ARABIC LIGATURE UIGHUR KIRGHIZ YEH%HAMZA<%ALEF MAKSURA ISOLATED&nFINAL&kINITIAL&.ARABIC",
  "$FARSI YEH ISOLATED&nFINAL&kINITIAL&mMEDIAL&.ARABIC LIGATURE YEH%HAMZA<%JEEM ISOLATED&sHAH ISO",
  "LATED&rMEEM ISOLATED&sALEF MAKSURA ISOLATED&.ARABIC LIGATURE YEH%HAMZA<%YEH ISOLATED&.ARABIC L",
  "IGATURE BEH%JEEM ISOLATED&sHAH ISOLATED&rKHAH ISOLATED&sMEEM ISOLATED&sALEF MAKSURA ISOLATED&.",
  "ARABIC LIGATURE BEH%YEH ISOLATED&.ARABIC LIGATURE TEH%JEEM ISOLATED&sHAH ISOLATED&rKHAH ISOLAT",
  "ED&sMEEM ISOLATED&sALEF MAKSURA ISOLATED&.ARABIC LIGATURE TEH%YEH ISOLATED&zHEH%JEEM ISOLATED&",
  "sMEEM ISOLATED&sALEF MAKSURA ISOLATED&.ARABIC LIGATURE THEH%YEH ISOLATED&.ARABIC LIGATURE JEEM",
  "%HAH ISOLATED&rMEEM ISOLATED&.ARABIC LIGATURE HAH%JEEM ISOLATED&sMEEM ISOLATED&.ARABIC LIGATUR",
  "E KHAH%JEEM ISOLATED&sHAH ISOLATED&rMEEM ISOLATED&.ARABIC LIGATURE SEEN%JEEM ISOLATED&sHAH ISO",
  "LATED&rKHAH ISOLATED&sMEEM ISOLATED&.ARABIC LIGATURE SAD%HAH ISOLATED&rMEEM ISOLATED&.ARABIC L",
  "IGATURE DAD%JEEM ISOLATED&sHAH ISOLATED&rKHAH ISOLATED&sMEEM ISOLATED&.ARABIC LIGATURE TAH%HA",
  "H ISOLATED&rMEEM ISOLATED&.ARABIC LIGATURE ZAH%MEEM ISOLATED&.ARABIC LIGATURE AIN%JEEM ISOLATE",
  "D&sMEEM ISOLATED&.ARABIC LIGATURE GHAIN%JEEM ISOLATED&sMEEM ISOLATED&.ARABIC LIGATURE FEH%JEE",
  "M ISOLATED&sHAH ISOLATED&rKHAH ISOLATED&sMEEM ISOLATED&sALEF MAKSURA ISOLATED&.ARABIC LIGATUR",
  "E FEH%YEH ISOLATED&.ARABIC LIGATURE QAF%HAH ISOLATED&rMEEM ISOLATED&sALEF MAKSURA ISOLATED&.AR",
  "ABIC LIGATURE QAF%YEH ISOLATED&.ARABIC LIGATURE KAF%ALEF ISOLATED&sJEEM ISOLATED&sHAH ISOLATED",
  "&rKHAH ISOLATED&sLAM ISOLATED&rMEEM ISOLATED&sALEF MAKSURA ISOLATED&.ARABIC LIGATURE KAF%YEH I",
  "SOLATED&.ARABIC LIGATURE LAM%JEEM ISOLATED&sHAH ISOLATED&rKHAH ISOLATED&sMEEM ISOLATED&sALEF M",
  "AKSURA ISOLATED&.ARABIC LIGATURE LAM%YEH ISOLATED&.ARABIC LIGATURE MEEM%JEEM ISOLATED&sHAH ISO",
  "LATED&rKHAH ISOLATED&sMEEM ISOLATED&sALEF MAKSURA ISOLATED&.ARABIC LIGATURE MEEM%YEH ISOLATED&",
  ".ARABIC LIGATURE NOON%JEEM ISOLATED&sHAH ISOLATED&rKHAH ISOLATED&sMEEM ISOLATED&sALEF MAKSUR",
  "A ISOLATED&.ARABIC LIGATURE NOON%YEH ISOLATED&.ARABIC LIGATURE HEH%JEEM ISOLATED&sMEEM ISOLATE",
  "D&sALEF MAKSURA ISOLATED&.ARABIC LIGATURE HEH%YEH ISOLATED&.ARABIC LIGATURE YEH%JEEM ISOLATED&",
  "sHAH ISOLATED&rKHAH ISOLATED&sMEEM ISOLATED&sALEF MAKSURA ISOLATED&.ARABIC LIGATURE YEH%YEH IS",
  "OLATED&.ARABIC LIGATURE THAL%SUPERSCRIPT ALEF ISOLATED&.ARABIC LIGATURE REH%SUPERSCRIPT ALEF I",
  "SOLATED&.ARABIC LIGATURE ALEF MAKSURA%SUPERSCRIPT ALEF ISOLATED&.ARABIC LIGATURE SHADDA%DAMMAT",
  "AN ISOLATED&wKASRATAN ISOLATED&wFATHA ISOLATED&tDAMMA ISOLATED&tKASRA ISOLATED&tSUPERSCRIPT AL",
  "EF ISOLATED&.ARABIC LIGATURE YEH%HAMZA<%REH FINAL&oZAIN FINAL&pMEEM FINAL&pNOON FINAL&pALEF MA",
  "KSURA FINAL&xYEH FINAL&.ARABIC LIGATURE BEH%REH FINAL&oZAIN FINAL&pMEEM FINAL&pNOON FINAL&pALE",
  "F MAKSURA FINAL&xYEH FINAL&xTEH%REH FINAL&oZAIN FINAL&pMEEM FINAL&pNOON FINAL&pALEF MAKSURA FI",
  "NAL&xYEH FINAL&wHEH%REH FINAL&oZAIN FINAL&pMEEM FINAL&pNOON FINAL&pALEF MAKSURA FINAL&xYEH FIN",
  "AL&yFEH%ALEF MAKSURA FINAL&xYEH FINAL&xQAF%ALEF MAKSURA FINAL&xYEH FINAL&xKAF%ALEF FINAL&pLA",
  "M FINAL&oMEEM FINAL&pALEF MAKSURA FINAL&xYEH FINAL&xLAM%MEEM FINAL&pALEF MAKSURA FINAL&xYEH FI",
  "NAL&xMEEM%ALEF FINAL&pMEEM FINAL&zNOON%REH FINAL&oZAIN FINAL&pMEEM FINAL&pNOON FINAL&pALEF MAK",
  "SURA FINAL&xYEH FINAL&yALEF MAKSURA%SUPERSCRIPT ALEF FINAL&.ARABIC LIGATURE YEH%REH FINAL&oZAI",
  "N FINAL&pMEEM FINAL&pNOON FINAL&pALEF MAKSURA FINAL&xYEH FINAL&oHAMZA<%JEEM INITIAL&rHAH INITI",
  "AL&qKHAH INITIAL&rMEEM INITIAL&rHEH INITIAL&.ARABIC LIGATURE BEH%JEEM INITIAL&rHAH INITIAL&qKH",
  "AH INITIAL&rMEEM INITIAL&rHEH INITIAL&zTEH%JEEM INITIAL&rHAH INITIAL&qKHAH INITIAL&rMEEM INITI",
  "AL&rHEH INITIAL&yHEH%MEEM INITIAL&.ARABIC LIGATURE JEEM%HAH INITIAL&qMEEM INITIAL&.ARABIC LIGA",
  "TURE HAH%JEEM INITIAL&rMEEM INITIAL&.ARABIC LIGATURE KHAH%JEEM INITIAL&rMEEM INITIAL&.ARABIC L",
  "IGATURE SEEN%JEEM INITIAL&rHAH INITIAL&qKHAH INITIAL&rMEEM INITIAL&.ARABIC LIGATURE SAD%HAH IN",
  "ITIAL&qKHAH INITIAL&rMEEM INITIAL&.ARABIC LIGATURE DAD%JEEM INITIAL&rHAH INITIAL&qKHAH INITIAL",
  "&rMEEM INITIAL&.ARABIC LIGATURE TAH%HAH INITIAL&zZAH%MEEM INITIAL&.ARABIC LIGATURE AIN%JEEM IN",
  "ITIAL&rMEEM INITIAL&.ARABIC LIGATURE GHAIN%JEEM INITIAL&rMEEM INITIAL&.ARABIC LIGATURE FEH%JEE",
  "M INITIAL&rHAH INITIAL&qKHAH INITIAL&rMEEM INITIAL&.ARABIC LIGATURE QAF%HAH INITIAL&qMEEM INIT",
  "IAL&.ARABIC LIGATURE KAF%JEEM INITIAL&rHAH INITIAL&qKHAH INITIAL&rLAM INITIAL&qMEEM INITIAL&.A",
  "RABIC LIGATURE LAM%JEEM INITIAL&rHAH INITIAL&qKHAH INITIAL&rMEEM INITIAL&rHEH INITIAL&zMEEM%JE",
  "EM INITIAL&rHAH INITIAL&qKHAH INITIAL&rMEEM INITIAL&.ARABIC LIGATURE NOON%JEEM INITIAL&rHAH IN",
  "ITIAL&qKHAH INITIAL&rMEEM INITIAL&rHEH INITIAL&.ARABIC LIGATURE HEH%JEEM INITIAL&rMEEM INITIAL",
  "&rSUPERSCRIPT ALEF INITIAL&.ARABIC LIGATURE YEH%JEEM INITIAL&rHAH INITIAL&qKHAH INITIAL&rMEE",
  "M INITIAL&rHEH INITIAL&pAMZA<%MEEM MEDIAL&qHEH MEDIAL&.ARABIC LIGATURE BEH%MEEM MEDIAL&qHEH ME",
  "DIAL&yTEH%MEEM MEDIAL&qHEH MEDIAL&xHEH%MEEM MEDIAL&qHEH MEDIAL&zSEEN%MEEM MEDIAL&qHEH MEDIAL&y",
  "HEEN%MEEM MEDIAL&qHEH MEDIAL&.ARABIC LIGATURE KAF%LAM MEDIAL&pMEEM MEDIAL&zLAM%MEEM MEDIAL&zNO",
  "ON%MEEM MEDIAL&qHEH MEDIAL&zYEH%MEEM MEDIAL&qHEH MEDIAL&ySHADDA%FATHA MEDIAL&rDAMMA MEDIAL&rKA",
  "SRA MEDIAL&.ARABIC LIGATURE TAH%ALEF MAKSURA ISOLATED&.ARABIC LIGATURE TAH%YEH ISOLATED&.ARABI",
  "C LIGATURE AIN%ALEF MAKSURA ISOLATED&.ARABIC LIGATURE AIN%YEH ISOLATED&.ARABIC LIGATURE GHAIN%",
  "ALEF MAKSURA ISOLATED&.ARABIC LIGATURE GHAIN%YEH ISOLATED&.ARABIC LIGATURE SEEN%ALEF MAKSURA I",
  "SOLATED&.ARABIC LIGATURE SEEN%YEH ISOLATED&.ARABIC LIGATURE SHEEN%ALEF MAKSURA ISOLATED&.ARABI",
  "C LIGATURE SHEEN%YEH ISOLATED&.ARABIC LIGATURE HAH%ALEF MAKSURA ISOLATED&.ARABIC LIGATURE HAH%",
  "YEH ISOLATED&.ARABIC LIGATURE JEEM%ALEF MAKSURA ISOLATED&.ARABIC LIGATURE JEEM%YEH ISOLATED&.A",
  "RABIC LIGATURE KHAH%ALEF MAKSURA ISOLATED&.ARABIC LIGATURE KHAH%YEH ISOLATED&.ARABIC LIGATUR",
  "E SAD%ALEF MAKSURA ISOLATED&.ARABIC LIGATURE SAD%YEH ISOLATED&.ARABIC LIGATURE DAD%ALEF MAKSUR",
  "A ISOLATED&.ARABIC LIGATURE DAD%YEH ISOLATED&.ARABIC LIGATURE SHEEN%JEEM ISOLATED&sHAH ISOLATE",
  "D&rKHAH ISOLATED&sMEEM ISOLATED&sREH ISOLATED&.ARABIC LIGATURE SEEN%REH ISOLATED&.ARABIC LIGAT",
  "URE SAD%REH ISOLATED&.ARABIC LIGATURE DAD%REH ISOLATED&.ARABIC LIGATURE TAH%ALEF MAKSURA FINAL",
  "&xYEH FINAL&xAIN%ALEF MAKSURA FINAL&xYEH FINAL&xGHAIN%ALEF MAKSURA FINAL&xYEH FINAL&zSEEN%ALE",
  "F MAKSURA FINAL&xYEH FINAL&xHEEN%ALEF MAKSURA FINAL&xYEH FINAL&zHAH%ALEF MAKSURA FINAL&xYEH FI",
  "NAL&xJEEM%ALEF MAKSURA FINAL&xYEH FINAL&yKHAH%ALEF MAKSURA FINAL&xYEH FINAL&ySAD%ALEF MAKSUR",
  "A FINAL&xYEH FINAL&xDAD%ALEF MAKSURA FINAL&xYEH FINAL&xSHEEN%JEEM FINAL&pHAH FINAL&oKHAH FINAL",
  "&pMEEM FINAL&pREH FINAL&yEEN%REH FINAL&xAD%REH FINAL&xDAD%REH FINAL&xSHEEN%JEEM INITIAL&rHAH I",
  "NITIAL&qKHAH INITIAL&rMEEM INITIAL&.ARABIC LIGATURE SEEN%HEH INITIAL&zHEEN%HEH INITIAL&.ARABI",
  "C LIGATURE TAH%MEEM INITIAL&.ARABIC LIGATURE SEEN%JEEM MEDIAL&qHAH MEDIAL&pKHAH MEDIAL&zHEEN%J",
  "EEM MEDIAL&qHAH MEDIAL&pKHAH MEDIAL&.ARABIC LIGATURE TAH%MEEM MEDIAL&zZAH%MEEM MEDIAL&zALEF%FA",
  "THATAN FINAL&kISOLATED&.ORNATE > PARENTHESISq* PARENTHESIS.ARABIC LIGATURE RAHIMAHU ALLAAHnD",
  "I ALLAAHU ANHaAAcUMaAAdNNAuSALLALLAAHU ALAYHI WA-AALIH.ARABIC LIGATURE ALAYHI AS-SALAAMkM AS-S",
  "ALAAMkAA AS-SALAAMn AS-SALAATU WAS-SALAAM.ARABIC LIGATURE QUDDISA SIRRAHoSALLALLAHU ALAYHI WAA",
  "ALIHEE WA-SALLAM.ARABIC LIGATURE ALAYHAA AS-SALAAMrTABAARAKA WA-TAAALAAuRAHIMAHUM ALLAAHqTEH%J",
  "EEM%MEEM INITIAL&.ARABIC LIGATURE TEH%HAH%JEEM FINAL&kINITIAL&rMEEM INITIAL&.ARABIC LIGATURE T",
  "EH%KHAH%MEEM INITIAL&.ARABIC LIGATURE TEH%MEEM%JEEM INITIAL&rHAH INITIAL&qKHAH INITIAL&.ARABI",
  "C LIGATURE JEEM%MEEM%HAH FINAL&kINITIAL&.ARABIC LIGATURE HAH%MEEM%YEH FINAL&oALEF MAKSURA FINA",
  "L&.ARABIC LIGATURE SEEN%HAH%JEEM INITIAL&.ARABIC LIGATURE SEEN%JEEM%HAH INITIAL&qALEF MAKSUR",
  "A FINAL&.ARABIC LIGATURE SEEN%MEEM%HAH FINAL&kINITIAL&qJEEM INITIAL&rMEEM FINAL&kINITIAL&.ARAB",
  "IC LIGATURE SAD%HAH%HAH FINAL&kINITIAL&zMEEM%MEEM FINAL&.ARABIC LIGATURE SHEEN%HAH%MEEM FINAL&",
  "kINITIAL&.ARABIC LIGATURE SHEEN%JEEM%YEH FINAL&yMEEM%KHAH FINAL&kINITIAL&rMEEM FINAL&kINITIAL&",
  ".ARABIC LIGATURE DAD%HAH%ALEF MAKSURA FINAL&.ARABIC LIGATURE DAD%KHAH%MEEM FINAL&kINITIAL&.ARA",
  "BIC LIGATURE TAH%MEEM%HAH FINAL&kINITIAL&qMEEM INITIAL&rYEH FINAL&.ARABIC LIGATURE AIN%JEEM%ME",
  "EM FINAL&zMEEM%MEEM FINAL&kINITIAL&rALEF MAKSURA FINAL&.ARABIC LIGATURE GHAIN%MEEM%MEEM FINAL&",
  "pYEH FINAL&oALEF MAKSURA FINAL&.ARABIC LIGATURE FEH%KHAH%MEEM FINAL&kINITIAL&.ARABIC LIGATUR",
  "E QAF%MEEM%HAH FINAL&oMEEM FINAL&.ARABIC LIGATURE LAM%HAH%MEEM FINAL&pYEH FINAL&oALEF MAKSUR",
  "A FINAL&.ARABIC LIGATURE LAM%JEEM%JEEM INITIAL&mFINAL&zKHAH%MEEM FINAL&kINITIAL&.ARABIC LIGATU",
  "RE LAM%MEEM%HAH FINAL&kINITIAL&.ARABIC LIGATURE MEEM%HAH%JEEM INITIAL&rMEEM INITIAL&rYEH FINAL",
  "&xJEEM%HAH INITIAL&qMEEM INITIAL&.ARABIC LIGATURE MEEM%KHAH%JEEM INITIAL&rMEEM INITIAL&(FD92).",
  "ARABIC LIGATURE MEEM%JEEM%KHAH INITIAL&.ARABIC LIGATURE HEH%MEEM%JEEM INITIAL&rMEEM INITIAL&.A",
  "RABIC LIGATURE NOON%HAH%MEEM INITIAL&rALEF MAKSURA FINAL&.ARABIC LIGATURE NOON%JEEM%MEEM FINAL",
  "&kINITIAL&rALEF MAKSURA FINAL&.ARABIC LIGATURE NOON%MEEM%YEH FINAL&oALEF MAKSURA FINAL&.ARABI",
  "C LIGATURE YEH%MEEM%MEEM FINAL&kINITIAL&.ARABIC LIGATURE BEH%KHAH%YEH FINAL&.ARABIC LIGATURE T",
  "EH%JEEM%YEH FINAL&oALEF MAKSURA FINAL&.ARABIC LIGATURE TEH%KHAH%YEH FINAL&oALEF MAKSURA FINAL&",
  ".ARABIC LIGATURE TEH%MEEM%YEH FINAL&oALEF MAKSURA FINAL&.ARABIC LIGATURE JEEM%MEEM%YEH FINAL&y",
  "HAH%ALEF MAKSURA FINAL&.ARABIC LIGATURE JEEM%MEEM%ALEF MAKSURA FINAL&.ARABIC LIGATURE SEEN%KHA",
  "H%ALEF MAKSURA FINAL&.ARABIC LIGATURE SAD%HAH%YEH FINAL&.ARABIC LIGATURE SHEEN%HAH%YEH FINAL&.",
  "ARABIC LIGATURE DAD%HAH%YEH FINAL&.ARABIC LIGATURE LAM%JEEM%YEH FINAL&yMEEM%YEH FINAL&.ARABI",
  "C LIGATURE YEH%HAH%YEH FINAL&xJEEM%YEH FINAL&yMEEM%YEH FINAL&.ARABIC LIGATURE MEEM%MEEM%YEH FI",
  "NAL&.ARABIC LIGATURE QAF%MEEM%YEH FINAL&.ARABIC LIGATURE NOON%HAH%YEH FINAL&.ARABIC LIGATURE Q",
  "AF%MEEM%HAH INITIAL&.ARABIC LIGATURE LAM%HAH%MEEM INITIAL&.ARABIC LIGATURE AIN%MEEM%YEH FINAL&",
  ".ARABIC LIGATURE KAF%MEEM%YEH FINAL&.ARABIC LIGATURE NOON%JEEM%HAH INITIAL&.ARABIC LIGATURE ME",
  "EM%KHAH%YEH FINAL&.ARABIC LIGATURE LAM%JEEM%MEEM INITIAL&.ARABIC LIGATURE KAF%MEEM%MEEM FINAL&",
  ".ARABIC LIGATURE LAM%JEEM%MEEM FINAL&.ARABIC LIGATURE NOON%JEEM%HAH FINAL&.ARABIC LIGATURE JEE",
  "M%HAH%YEH FINAL&.ARABIC LIGATURE HAH%JEEM%YEH FINAL&.ARABIC LIGATURE MEEM%JEEM%YEH FINAL&.ARAB",
  "IC LIGATURE FEH%MEEM%YEH FINAL&.ARABIC LIGATURE BEH%HAH%YEH FINAL&.ARABIC LIGATURE KAF%MEEM%ME",
  "EM INITIAL&.ARABIC LIGATURE AIN%JEEM%MEEM INITIAL&.ARABIC LIGATURE SAD%MEEM%MEEM INITIAL&.ARAB",
  "IC LIGATURE SEEN%KHAH%YEH FINAL&.ARABIC LIGATURE NOON%JEEM%YEH FINAL&(FDCF).ARABIC LIGATURE SA",
  "LAAMUHU ALAYNAA(FDF0)oLA USED AS KORANIC STOP; ISOLATED&.ARABIC LIGATURE QALA USED AS KORANI",
  "C STOP; ISOLATED&.ARABIC LIGATURE ALLAH ISOLATED&sKBAR ISOLATED&tMOHAMMAD ISOLATED&wSALAM ISOL",
  "ATED&tRASOUL ISOLATED&uALAYHE ISOLATED&uWASALLAM ISOLATED&wSALLA ISOLATED&oLLAHOU ALAYHE WASAL",
  "LAM.ARABIC LIGATURE JALLAJALALOUHOU.RIAL;.ARABIC LIGATURE BISMILLAH AR-RAHMAN AR-RAHEEM.ARABI",
  "C LIGATURE SUBHAANAHU WA TAAALAAvAZZA WA JALL.VARIATION SELECTOR-1b2b3b4b5b6b7b8b9b10b1b2b3b4b",
  "5b6.PRESENTATION& FOR ,COMMAfIDEOGRAPHIC COMMAfFULL STOPvCOLONfSEMICOLONjEXCLAMATION|qQUESTION",
  "|n> WHITE LENTICULAR BRACKET.PRESENTATION& FOR ,* WHITE LENTICULAR BRAKCET.PRESENTATION& FOR ,",
  "HORIZONTAL ELLIPSIS(FE20).COMBINING LIGATURE > HALFj* HALFt@ TILDE > HALFj* HALFxMACRON > HALF",
  "j* HALFrCONJOINING MACRONrLIGATURE > HALF=p* HALF=zTILDE > HALF=p* HALF=wMACRON > HALF=p* HALF",
  "=xCONJOINING MACRON=wYRILLIC TITLO > HALFj* HALF.PRESENTATION& FOR ,TWO DOT LEADERoEM DASHgN D",
  "ASHhLOW LINEiWAVY LOW LINEn> PARENTHESISq* PARENTHESISr> CURLY BRACKETs* CURLY BRACKETt> TORTO",
  "ISE SHELL BRACKET.PRESENTATION& FOR ,* TORTOISE SHELL BRACKET.PRESENTATION& FOR ,> ~ LENTICULA",
  "R BRACKET.PRESENTATION& FOR ,* ~ LENTICULAR BRACKET.PRESENTATION& FOR ,> @ ANGLE BRACKETz* @ A",
  "NGLE BRACKET.PRESENTATION& FOR ,> ANGLE BRACKETs* ANGLE BRACKETt> CORNER BRACKETt* CORNER BRAC",
  "KETu> WHITE CORNER BRACKETz* WHITE CORNER BRACKET.SESAME DOT.WHITE SESAME DOT.PRESENTATION& FO",
  "R ,> SQUARE BRACKETt* SQUARE BRACKET.DASHED OVERLINE.CENTRELINE OVERLINE.WAVY OVERLINE.@ WAV",
  "Y OVERLINEtASHED LOW LINE.CENTRELINE LOW LINE.WAVY LOW LINE.SMALL COMMAfIDEOGRAPHIC COMMArFUL",
  "L STOP(FE54)jSEMICOLONjCOLONfQUESTION|nEXCLAMATION|pM DASHh> PARENTHESISq* PARENTHESISr> CURL",
  "Y BRACKETs* CURLY BRACKETt> TORTOISE SHELL BRACKET.SMALL * TORTOISE SHELL BRACKET.SMALL NUMBER",
  ";lAMPERSANDiSTERISKiPLUS;jHYPHEN-MINUSmLESS-THAN;oGREATER-THAN;rEQUALS;(FE68)lREVERSE SOLIDUSp",
  "DOLLAR;lPERCENT;mCOMMERCIAL AT(FE70).ARABIC FATHATAN ISOLATED&wTATWEEL%FATHATAN<.ARABIC DAMMAT",
  "AN ISOLATED&wTAIL FRAGMENTnKASRATAN ISOLATED&(FE76)wFATHA ISOLATED&nMEDIAL&rDAMMA ISOLATED&nME",
  "DIAL&rKASRA ISOLATED&nMEDIAL&rSHADDA ISOLATED&nMEDIAL&rUKUN ISOLATED&nMEDIAL&.ARABIC$HAMZA ISO",
  "LATED&tALEF%MADDA< ISOLATED&nFINAL&wHAMZA< ISOLATED&nFINAL&.ARABIC$WAW%HAMZA< ISOLATED&nFINAL&",
  ".ARABIC$ALEF%HAMZA= ISOLATED&nFINAL&.ARABIC$YEH%HAMZA< ISOLATED&nFINAL&kINITIAL&mMEDIAL&.ARABI",
  "C$ALEF ISOLATED&nFINAL&pBEH ISOLATED&nFINAL&kINITIAL&mMEDIAL&pTEH MARBUTA ISOLATED&nFINAL&sISO",
  "LATED&nFINAL&kINITIAL&mMEDIAL&oHEH ISOLATED&nFINAL&kINITIAL&mMEDIAL&qJEEM ISOLATED&nFINAL&kINI",
  "TIAL&mMEDIAL&qHAH ISOLATED&nFINAL&kINITIAL&mMEDIAL&pKHAH ISOLATED&nFINAL&kINITIAL&mMEDIAL&qDA",
  "L ISOLATED&nFINAL&oTHAL ISOLATED&nFINAL&pREH ISOLATED&nFINAL&oZAIN ISOLATED&nFINAL&pSEEN ISOLA",
  "TED&nFINAL&kINITIAL&mMEDIAL&pHEEN ISOLATED&nFINAL&kINITIAL&mMEDIAL&qAD ISOLATED&nFINAL&kINITIA",
  "L&mMEDIAL&pDAD ISOLATED&nFINAL&kINITIAL&mMEDIAL&pTAH ISOLATED&nFINAL&kINITIAL&mMEDIAL&pZAH ISO",
  "LATED&nFINAL&kINITIAL&mMEDIAL&pAIN ISOLATED&nFINAL&kINITIAL&mMEDIAL&pGHAIN ISOLATED&nFINAL&kIN",
  "ITIAL&mMEDIAL&rFEH ISOLATED&nFINAL&kINITIAL&mMEDIAL&pQAF ISOLATED&nFINAL&kINITIAL&mMEDIAL&pKA",
  "F ISOLATED&nFINAL&kINITIAL&mMEDIAL&pLAM ISOLATED&nFINAL&kINITIAL&mMEDIAL&pMEEM ISOLATED&nFINAL",
  "&kINITIAL&mMEDIAL&qNOON ISOLATED&nFINAL&kINITIAL&mMEDIAL&qHEH ISOLATED&nFINAL&kINITIAL&mMEDIAL",
  "&pWAW ISOLATED&nFINAL&oALEF MAKSURA ISOLATED&nFINAL&xYEH ISOLATED&nFINAL&kINITIAL&mMEDIAL&vIGA",
  "TURE LAM%ALEF%MADDA< ISOLATED&nFINAL&wHAMZA< ISOLATED&nFINAL&qBELOW ISOLATED&nFINAL&.ARABIC LI",
  "GATURE LAM%ALEF ISOLATED&nFINAL&(FEFF).ZERO WIDTH NO-BREAK SPACE(FF01).FULLWIDTH EXCLAMATION|q",
  "QUOTATION|oNUMBER;lDOLLAR;lPERCENT;mAMPERSANDiPOSTROPHEk> PARENTHESISq* PARENTHESISrASTERISKiP",
  "LUS;jCOMMAfHYPHEN-MINUSmFULL STOPjSOLIDUShDIGIT ZEROeONEdTWOcHREEfFOURdIVEeSIXcEVENfEIGHTfNINE",
  "kCOLONfSEMICOLONjLESS-THAN;oEQUALS;lGREATER-THAN;rQUESTION|nCOMMERCIAL ATnLATIN CAPITAL$AbBbCb",
  "DbEbFbGbHbIbJbKbLbMbNbObPbQbRbSbTbUbVbWbXbYbZvEFT SQUARE BRACKETtREVERSE SOLIDUSoIGHT SQUARE B",
  "RACKETuCIRCUMFLEX ACCENTrLOW LINEiGRAVE ACCENTmLATIN SMALL$AbBbCbDbEbFbGbHbIbJbKbLbMbNbObPbQbR",
  "bSbTbUbVbWbXbYbZtEFT CURLY BRACKETs,LINEn* CURLY BRACKETtTILDEf> WHITE PARENTHESISw* WHITE PAR",
  "ENTHESIS.HALFWIDTH IDEOGRAPHIC FULL STOPv> CORNER BRACKETt* CORNER BRACKETuIDEOGRAPHIC COMMArK",
  "ATAKANA MIDDLE DOTkLETTER WOcSMALL AbIbUbEbObYAbUbOcTUq-HIRAGANA PROLONGED SOUND|.HALFWIDTH KA",
  "TAKANA$AbIbUbEbObKAbIbUbEbOcSAbIbUbEbOcTAbIbUbEbOcNAbIbUbEbOcHAbIbUbEbOcMAbIbUbEbOcYAbUbOcRAbI",
  "bUbEbOcWAcNiVOICED SOUND|rSEMI-VOICED SOUND|.HALFWIDTH HANGUL FILLERgLETTER KIYEOKgSSANGKIYEOK",
  "lKIYEOK-SIOSlNIEUNa-CIEUCfHIEUHlTIKEUTgSSANGTIKEUTlRIEULa-KIYEOKgMIEUMfPIEUPfSIOSeTHIEUTHhPHIE",
  "UPHhHIEUHlMIEUMfPIEUPfSSANGPIEUPkPIEUP-SIOSkSIOSdSANGSIOSjIEUNGfCIEUCfSSANGCIEUCkCHIEUCHhKHIEU",
  "KHhTHIEUTHhPHIEUPHhHIEUH(FFC2)fAaEcYAaEdEOb(FFCA)bYEObcObWAaEdOE(FFD2)cYOcUbWEObbIcYU(FFDA)cEU",
  "cYIcI(FFE0).FULLWIDTH CENT;jPOUND;kNOT;iMACRONgBROKEN BARkYEN;iWON;(FFE8).HALFWIDTH&S LIGHT VE",
  "RTICALu>WARDS:pUPWARDS:n*WARDS:qDOWNWARDS:p~ SQUAREmWHITE CIRCLE(FFF9).INTERLINEAR ANNOTATIO",
  "N ANCHORgSEPARATORjTERMINATOR.OBJECT REPLACEMENT CHARACTER.REPLACEMENT CHARACTER"]

end Readiness.CharacterName
