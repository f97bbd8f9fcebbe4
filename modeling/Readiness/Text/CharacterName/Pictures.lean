/-!
# Names of characters: notations and pictures

The names of the code points from U+1D000 on, save those that a rule gives.
How they are written down is told where they are looked up.
-/

namespace Readiness.CharacterName

/-- The names of the code points from U+1D000 on, save those that a rule gives. -/
def pictures : List String := [
  "(1D000).BYZANTINE MUSICAL_ PSILIfDASEIAgPERISPOMENIlOXEIA EKFONITIKONlDIPLIlVAREIA EKFONITIKON",
  "lDIPLImKATHISTIiSYRMATIKIjPARAKLITIKIlYPOKRISISa DIPLIpKREMASTIiAPESO EKFONITIKONrEXO EKFONITI",
  "KONpTELEIAgKENTIMATAjAPOSTROFOSa DIPLIqSYNEVMAhTHITAfOLIGON ARCHAIONpGORGON ARCHAIONpPSILONgCH",
  "AMILONiVATHYfISON ARCHAIONnKENTIMA ARCHAIONjTA ARCHAIONsSAXIMATAiPARICHONiSTAVROS APODEXIAqOXE",
  "IAI ARCHAIONpVAREIAI ARCHAIONqAPODERMA ARCHAIONoTHEMAiKLASMAgREVMAfPIASMA ARCHAIONpTINAGMAhANA",
  "TRICHISMAmSEISMAfYNAGMA ARCHAIONiMETA STAVROUuOYRANISMA ARCHAIONsTHEMAfLEMOIfDYOdTRIAdESSERAhK",
  "RATIMATAjAPESO EXO NEOnFTHORA ARCHAIONpIMIFTHORAjTROMIKON ARCHAIONrKATAVA TROMIKONpPELASTONhSI",
  "FISTONjKONTEVMAiCHOREVMA ARCHAIONrRAPISMAhPARAKALESMA ARCHAIONpLITIKI ARCHAIONuICHADINhNANAePE",
  "TASMAhKONTEVMA ALLOnTROMIKON ALLOnSTRAGGISMATAmGRONTHISMATAmISON NEOiOLIGON NEOjXEIA NEOjPETAS",
  "TIhKOUFISMAiPETASTOKOUFISMApKRATIMOKOUFISMApPELASTON NEOmKENTIMATA NEO ANOk NEO ANOpYPSILIgAPO",
  "STROFOS NEOfI SYNDESMOS NEOyYPORROIhKRATIMOYPORROONpELAFRONhCHAMILIhMIKRON ISONlVAREIA NEOkPIA",
  "SMA NEOjSIFISTON NEOnOMALONgANTIKENOMAkLYGISMAhPARAKLITIKI NEOkALESMA NEOpETERON PARAKALESMAsK",
  "YLISMAhANTIKENOKYLISMApTROMIKON NEOmEKSTREPTONkSYNAGMA NEOjRMAfCHOREVMA NEOmEPEGERMAiSEISMA NE",
  "OkXIRON KLASMAmTROMIKOPSIFISTONqPSIFISTOLYGISMApTROMIKOLYGISMAhPARAKALESMAsPSIFISTOPARAKALESMA",
  "tTROMIKOSYNAGMAoPSIFISTOSYNAGMApGORGOSYNTHETONoARGOSYNTHETONnETERON ARGOSYNTHETONuOYRANISMA NE",
  "OnTHEMATISMOS ESOcXOk APLOUNjS KAI APOTHESqKATAVASMAjENDOFONONjYFEN KATOeANOiSTAVROShKLASMA AN",
  "OkDIPLI ARCHAIONoKRATIMA ARCHAIONhLLOeNEOlAPODERMA NEOkLIeDIPLIfTRIPLIfETRAPLIiKORONIShLEIMM",
  "A ENOS CHRONOUmDYO CHRONONlTRION CHRONONmESSARON CHRONONqIMISEOS CHRONOUwGORGON NEO ANOhPAREST",
  "IGMENON ARISTERAiDEXIA.BYZANTINE MUSICAL_ DIGORGONa PARESTIGMENON ARISTERA KATOeANOmDEXIA.BYZA",
  "NTINE MUSICAL_ TRIGORGONjARGONfIMIDIARGONkDIARGONhAGOGI POLI ARGIjARGOTERIfIeMETRIAeSIeGORGIbO",
  "TERIjPOLI GORGIqMARTYRIA PROTOS ICHOSmALLI PROTOS ICHOSrDEYTEROS ICHOSoALLI DEYTEROS ICHOStTRI",
  "TOS ICHOSjFONIASiETARTOS ICHOSfLEGETOS ICHOSwLEGETOS ICHOSnPLAGIOS ICHOSwISAKIA TELOUS ICHIMAT",
  "OSxAPOSTROFOI TELOUS ICHIMATOS.BYZANTINE MUSICAL_ FANEROSIS TETRAFONIASlMONOFONIASkDIFONIASsMA",
  "RTYRIA VARYS ICHOSlPROTOVARYS ICHOSpLAGIOS TETARTOS ICHOS.BYZANTINE MUSICAL_ GORTHMIKON N APLO",
  "UNgDIPLOUNuENARXIS KAI FTHORA VOUwIMIFONONeTHORONkFTHORA ARCHAION DEYTEROU ICHOUxDIATONIKI PAc",
  "NANAoNAOS ICHOSkDIATONIKI DImSKLIRON DIATONON DItDIATONIKI KEcZOcNI KATOeANOqMALAKON CHROMA DI",
  "FONIASiMONOFONIAS.BYZANTINE MUSICAL_ FHTORA SKLIRON CHROMA VASIS.BYZANTINE MUSICAL_ FTHORA SKL",
  "IRON CHROMA SYNAFIvNENANOnCHROA ZYGOSfKLITONgSPATHImFTHORA I YFESIS TETARTIMORIONwENARMONIOS A",
  "NTIFONIA.BYZANTINE MUSICAL_ YFESIS TRITIMORIONsDIESIS TRITIMORIONkETARTIMORIONnAPLI DYO DODEKA",
  "TArMONOGRAMMOS TESSERA DODEKATA.BYZANTINE MUSICAL_ DIESIS DIGRAMMOS EX DODEKATAvTRIGRAMMOS OKT",
  "O DODEKATA.BYZANTINE MUSICAL_ YFESIS APLI DYO DODEKATArMONOGRAMMOS TESSERA DODEKATA.BYZANTIN",
  "E MUSICAL_ YFESIS DIGRAMMOS EX DODEKATAvTRIGRAMMOS OKTO DODEKATA.BYZANTINE MUSICAL_ GENIKI DIE",
  "SISgYFESISnDIASTOLI APLI MIKRIeEGALIlDIPLIfTHESEOSqSIMANSIS THESEOSa DISIMOUhTRISIMOUhETRASIMO",
  "UsARSEOSa DISIMOUhTRISIMOUhETRASIMOU.BYZANTINE MUSICAL_ DIGRAMMA GGjFTOGGOS OUmSTIGMAgARKTIK",
  "O PAcVOUdGAcDIcKEcZOcNIkKENTIMATA NEO MESOl NEO MESOjTA NEO KATOl NEO KATOpLASMA KATOlGORGON N",
  "EO KATO(1D100).MUSICAL_ SINGLE BARLINEo@ BARLINEoFINAL BARLINEnREVERSE FINAL BARLINEvDASHED BA",
  "RLINEoSHORT BARLINEn> REPEAT;q* REPEAT;qEPEAT DOTSlDAL SEGNOh CAPOhSEGNOfCODAeREPEATED FIGURE-",
  "1b2b3rFERMATAa=nBREATH|lCAESURAhBRACEbKEThONE-LINE STAFFoTWO-LINE STAFFnHREE-LINE STAFFqFOUR-L",
  "INE STAFFoIVE-LINE STAFFpSIX-LINE STAFFkSTRING FRETBOARDuFOUR-STRING FRETBOARDvG CLEFa OTTAV",
  "A ALTAeBASSAtC CLEFgF CLEFa OTTAVA ALTAeBASSAtDRUM CLEF-1b2(1D129)lMULTIPLE MEASURE RESTv@ SHA",
  "RPfFLATlFLAT UPcDOWNjNATURAL UPcDOWNmSHARP UPcDOWNkQUARTER TONE SHARPfFLATrCOMMON TIMEkUT TIME",
  "iOTTAVA ALTAeBASSAmQUINDICESIMA ALTAeBASSAsMULTI RESTkWHOLE RESTkHALF RESTjQUARTER RESTmEIGHT",
  "H RESTlSIXTEENTH RESToTHIRTY-SECOND RESTsSIXTY-FOURTH RESTrONE HUNDRED TWENTY-EIGHTH REST.MUSI",
  "CAL_ X NOTEHEADkPLUS NOTEHEADnCIRCLE X NOTEHEADrSQUARE NOTEHEAD WHITEf~vTRIANGLE NOTEHEAD UP W",
  "HITEf~i> WHITEf~k* WHITEf~lDOWN WHITEf~kUP * WHITEf~.MUSICAL_ MOON NOTEHEAD WHITEf~tTRIANGLE-R",
  "OUND NOTEHEAD DOWN WHITEf~.MUSICAL_ PARENTHESIS NOTEHEADuVOID NOTEHEADnNOTEHEAD ~nULL NOTEHEAD",
  "nCLUSTER NOTEHEAD WHITEf~wBREVEfWHOLE NOTEkHALF NOTEjQUARTER NOTEmEIGHTH NOTElSIXTEENTH NOTEoT",
  "HIRTY-SECOND NOTEsSIXTY-FOURTH NOTErONE HUNDRED TWENTY-EIGHTH NOTE.MUSICAL_ COMBINING STEMdPRE",
  "CHGESANG STEMrTREMOLO-1b2b3tFINGERED TREMOLO-1b2b3sCOMBINING AUGMENTATION DOTqFLAG-1b2b3b4b5qB",
  "EGIN BEAMkEND BEAMiBEGIN TIEjEND TIEhBEGIN SLURkEND SLURiBEGIN PHRASEmEND PHRASEkCOMBINING ACC",
  "ENTgSTACCATOiTENUTOgSTACCATISSIMOnMARCATOa-STACCATOqACCENT-STACCATOpLOUREpARPEGGIATO UPcDOWNpC",
  "OMBINING DOITeRIPdFLIPeSMEARfBENDe@ TONGUEnTRIPLE TONGUExRINFORZANDOlSUBITOgZbPIANOfMEZZOfFORT",
  "EfCRESCENDOjDECRESCENDOlGRACE NOTE SLASHfNO SLASHtTRbURNeINVERTED TURNnTURN SLASHfUPhORNAMEN",
  "T STROKE-1b2b3b4b5b6b7b8b9b10b1sHAUPTSTIMMElNEBENSTIMMElEND OF STIMMEnDEGREE SLASHmCOMBINING D",
  "OWN BOWiUP BOWgHARMONICiSNAP PIZZICATOyPEDAL|eUP|nHALF PEDAL|pGLISSANDO UPcDOWNoWITH FINGERNAI",
  "LSqDAMPa ALLiMAXIMAgLONGAfBREVISgSEMIBREVIS WHITEf~qMINIMAa ~mSEMIMINIMA WHITEf~qFUSA WHITEf~k",
  "LONGA PERFECTA RESTnIMPERFECTA RESTvBREVIS RESTlSEMIBREVIS RESTpMINIMA RESTlSEMIMINIMA RESTpTE",
  "MPUS PERFECTUM CUM PROLATIONE PERFECTAiIMPERFECTAkPERFECTA DIMINUTION-1.MUSICAL_ TEMPUS IMPERF",
  "ECTUM CUM PROLATIONE PERFECTAiIMPERFECTAa DIMINUTION-1b2b3.MUSICAL_ CROIXfGREGORIAN C CLEFgF C",
  "LEFqSQUARE BiVIRGAfPODATUShCLIVISgSCANDICUSjCLIMACUSiTORCULUSiPORRECTUSa FLEXUSqSCANDICUS FLEX",
  "USqTORCULUS RESUPINUSsPES SUBPUNCTISoKIEVAN C CLEFgEND OF PIECEmFINAL NOTEkRECITATIVE|pWHOLE N",
  "OTEkHALF NOTEjQUARTER NOTE STEM DOWNeUPuEIGHTH NOTE STEM DOWNeUPtFLAT;qSORIeKORON(1D200).GREE",
  "K VOCAL NOTATION_-1b2b3b4b5b6b7b8b9b10b1b2b3b4b5b6b7b8b9c20b1b2b3b4c50b1b2b3b4yINSTRUMENTAL NO",
  "TATION_-1b2b4b5b7b8b11b2b3b4b7b8b9c23b4b5b6b7b9c30b2b6b7b8b9c40b2b3b5b7b8b9c50b1b2b3b4.COMBINI",
  "NG GREEK MUSICAL TRISEMEgETRASEMEjPENTASEME.GREEK MUSICAL LEIMMA(1D2E0).MAYAN NUMERAL ZEROeONE",
  "dTWOcHREEfFOURdIVEeSIXcEVENfEIGHTfNINEeTENdELEVENgTWELVEfHIRTEENiFOURTEENhIFTEENhSIXTEENgEVENT",
  "EENjEIGHTEENiNINETEEN(1D300)vONOGRAM FOR EARTH.DIGRAM FOR HEAVENLY EARTHnUMAN EARTHlEARTHLY HE",
  "AVENfUMANi.TETRAGRAM FOR CENTREgFULL CIRCLElMIREDfBARRIERhKEEPING SMALLnCONTRARIETYlASCENTgOPP",
  "OSITIONkBRANCHING OUTnDEFECTIVENESS OR DISTORTION.TETRAGRAM FOR DIVERGENCEkYOUTHFULNESSmINCREA",
  "SEiPENETRATIONlREACHfCONTACThHOLDING BACKmWAITINGhFOLLOWINGjADVANCEhRELEASEfSISTANCEkEASEeJOYd",
  "CONTENTIONkENDEAVOURjDUTIESgCHANGEgDECISIVENESSmBOLD RESOLUTIONpPACKINGhLEGIONgCLOSENESSjKINSH",
  "IPhGATHERINGjSTRENGTHiPURITYgFULLNESSiRESIDENCEjLAW OR MODELmRESPONSEiGOING TO MEETnENCOUNTERS",
  "kSTOVEfGREATNESSjENLARGEMENTlPATTERNhRITUALgFLIGHTgVASTNESS OR WASTINGtCONSTANCYjMEASUREhETERN",
  "ITYiUNITYfDIMINISHMENTmCLOSED MOUTHmGUARDEDNESSkATHERING INmMASSINGhACCUMULATIONmEMBELLISHMENT",
  "nDOUBTfWATCHfSINKINGhINNERfDEPARTUREiARKENINGiIMMINGhEXHAUSTIONkSEVERANCEiTOPPAGEiHARDNESSiCOM",
  "PLETIONjLOSUREhFAILUREhAGGRAVATIONlCOMPLIANCEkON THE VERGEmDIFFICULTIESmLABOURINGjFOSTERING(1D",
  "360).COUNTING ROD UNIT DIGIT ONEdTWOcHREEfFOURdIVEeSIXcEVENfEIGHTfNINEpTENS DIGIT ONEdTWOcHREE",
  "fFOURdIVEeSIXcEVENfEIGHTfNINE.IDEOGRAPHIC TALLY| ONEdTWOcHREEfFOURdIVE.TALLY| ONEdFIVE(1D400).",
  "MATHEMATICAL BOLD CAPITAL AbBbCbDbEbFbGbHbIbJbKbLbMbNbObPbQbRbSbTbUbVbWbXbYbZjSMALL AbBbCbDbEb",
  "FbGbHbIbJbKbLbMbNbObPbQbRbSbTbUbVbWbXbYbZmITALIC CAPITAL AbBbCbDbEbFbGbHbIbJbKbLbMbNbObPbQbRbS",
  "bTbUbVbWbXbYbZjSMALL AbBbCbDbEbFbG(1D456)bIbJbKbLbMbNbObPbQbRbSbTbUbVbWbXbYbZoBOLD ITALIC CAPI",
  "TAL AbBbCbDbEbFbGbHbIbJbKbLbMbNbObPbQbRbSbTbUbVbWbXbYbZjSMALL AbBbCbDbEbFbGbHbIbJbKbLbMbNbObPb",
  "QbRbSbTbUbVbWbXbYbZtSCRIPT CAPITAL A(1D49E)bCbD(1D4A2)bG(1D4A5)bJbK(1D4A9)bNbObPbQ(1D4AE)bSbTb",
  "UbVbWbXbYbZjSMALL AbBbCbD(1D4BB)bF(1D4BD)bHbIbJbKbLbMbN(1D4C5)bPbQbRbSbTbUbVbWbXbYbZoBOLD SCRI",
  "PT CAPITAL AbBbCbDbEbFbGbHbIbJbKbLbMbNbObPbQbRbSbTbUbVbWbXbYbZjSMALL AbBbCbDbEbFbGbHbIbJbKbLbM",
  "bNbObPbQbRbSbTbUbVbWbXbYbZtFRAKTUR CAPITAL AbB(1D507)bDbEbFbG(1D50D)bJbKbLbMbNbObPbQ(1D516)bSb",
  "TbUbVbWbXbY(1D51E)jSMALL AbBbCbDbEbFbGbHbIbJbKbLbMbNbObPbQbRbSbTbUbVbWbXbYbZp@-STRUCK CAPITA",
  "L AbB(1D53B)bDbEbFbG(1D540)bIbJbKbLbM(1D546)bO(1D54A)bSbTbUbVbWbXbY(1D552)jSMALL AbBbCbDbEbFbG",
  "bHbIbJbKbLbMbNbObPbQbRbSbTbUbVbWbXbYbZvBOLD FRAKTUR CAPITAL AbBbCbDbEbFbGbHbIbJbKbLbMbNbObPbQb",
  "RbSbTbUbVbWbXbYbZjSMALL AbBbCbDbEbFbGbHbIbJbKbLbMbNbObPbQbRbSbTbUbVbWbXbYbZuSANS-SERIF CAPITA",
  "L AbBbCbDbEbFbGbHbIbJbKbLbMbNbObPbQbRbSbTbUbVbWbXbYbZjSMALL AbBbCbDbEbFbGbHbIbJbKbLbMbNbObPbQb",
  "RbSbTbUbVbWbXbYbZhBOLD CAPITAL AbBbCbDbEbFbGbHbIbJbKbLbMbNbObPbQbRbSbTbUbVbWbXbYbZjSMALL AbBbC",
  "bDbEbFbGbHbIbJbKbLbMbNbObPbQbRbSbTbUbVbWbXbYbZmITALIC CAPITAL AbBbCbDbEbFbGbHbIbJbKbLbMbNbObPb",
  "QbRbSbTbUbVbWbXbYbZjSMALL AbBbCbDbEbFbGbHbIbJbKbLbMbNbObPbQbRbSbTbUbVbWbXbYbZoBOLD ITALIC CAPI",
  "TAL AbBbCbDbEbFbGbHbIbJbKbLbMbNbObPbQbRbSbTbUbVbWbXbYbZjSMALL AbBbCbDbEbFbGbHbIbJbKbLbMbNbObPb",
  "QbRbSbTbUbVbWbXbYbZ.MATHEMATICAL MONOSPACE CAPITAL AbBbCbDbEbFbGbHbIbJbKbLbMbNbObPbQbRbSbTbUbV",
  "bWbXbYbZjSMALL AbBbCbDbEbFbGbHbIbJbKbLbMbNbObPbQbRbSbTbUbVbWbXbYbZrITALIC SMALL DOTLESS IbJ(1D",
  "6A8)wBOLD CAPITAL ALPHAfBETAeGAMMAfDELTAfEPSILONhZETAeETAdTHETAfIOTAeKAPPAfLAMDAfMUcNUcXIcOMIC",
  "RONhPIcRHOdTHETA_mSIGMAfTAUdUPSILONhPHIdCHIdPSIdOMEGAnNABLAfSMALL ALPHAfBETAeGAMMAfDELTAfEPSIL",
  "ONhZETAeETAdTHETAfIOTAeKAPPAfLAMDAfMUcNUcXIcOMICRONhPIcRHOdFINAL SIGMAlSIGMAfTAUdUPSILONhPHIdC",
  "HIdPSIdOMEGAlPARTIAL DIFFERENTIALuEPSILON_oTHETA_mKAPPA_mPHI_kRHO_kPI_oITALIC CAPITAL ALPHAfBE",
  "TAeGAMMAfDELTAfEPSILONhZETAeETAdTHETAfIOTAeKAPPAfLAMDAfMUcNUcXIcOMICRONhPIcRHOdTHETA_mSIGMAfTA",
  "UdUPSILONhPHIdCHIdPSIdOMEGAnNABLAfSMALL ALPHAfBETAeGAMMAfDELTAfEPSILONhZETAeETAdTHETAfIOTAeKAP",
  "PAfLAMDAfMUcNUcXIcOMICRONhPIcRHOdFINAL SIGMAlSIGMAfTAUdUPSILONhPHIdCHIdPSIdOMEGAlPARTIAL DIFFE",
  "RENTIALuEPSILON_oTHETA_mKAPPA_mPHI_kRHO_kPI_qBOLD ITALIC CAPITAL ALPHAfBETAeGAMMAfDELTAfEPSILO",
  "NhZETAeETAdTHETAfIOTAeKAPPAfLAMDAfMUcNUcXIcOMICRONhPIcRHOdTHETA_mSIGMAfTAUdUPSILONhPHIdCHIdPSI",
  "dOMEGAnNABLAfSMALL ALPHAfBETAeGAMMAfDELTAfEPSILONhZETAeETAdTHETAfIOTAeKAPPAfLAMDAfMUcNUcXIcOMI",
  "CRONhPIcRHOdFINAL SIGMAlSIGMAfTAUdUPSILONhPHIdCHIdPSIdOMEGAlPARTIAL DIFFERENTIALuEPSILON_oTHET",
  "A_mKAPPA_mPHI_kRHO_kPI_vSANS-SERIF BOLD CAPITAL ALPHAfBETAeGAMMAfDELTAfEPSILONhZETAeETAdTHETAf",
  "IOTAeKAPPAfLAMDAfMUcNUcXIcOMICRONhPIcRHOdTHETA_mSIGMAfTAUdUPSILONhPHIdCHIdPSIdOMEGAnNABLAfSMAL",
  "L ALPHAfBETAeGAMMAfDELTAfEPSILONhZETAeETAdTHETAfIOTAeKAPPAfLAMDAfMUcNUcXIcOMICRONhPIcRHOdFINA",
  "L SIGMAlSIGMAfTAUdUPSILONhPHIdCHIdPSIdOMEGAlPARTIAL DIFFERENTIALuEPSILON_oTHETA_mKAPPA_mPHI_kR",
  "HO_kPI_jITALIC CAPITAL ALPHAfBETAeGAMMAfDELTAfEPSILONhZETAeETAdTHETAfIOTAeKAPPAfLAMDAfMUcNUcXI",
  "cOMICRONhPIcRHOdTHETA_mSIGMAfTAUdUPSILONhPHIdCHIdPSIdOMEGAnNABLAfSMALL ALPHAfBETAeGAMMAfDELTAf",
  "EPSILONhZETAeETAdTHETAfIOTAeKAPPAfLAMDAfMUcNUcXIcOMICRONhPIcRHOdFINAL SIGMAlSIGMAfTAUdUPSILONh",
  "PHIdCHIdPSIdOMEGAlPARTIAL DIFFERENTIALuEPSILON_oTHETA_mKAPPA_mPHI_kRHO_kPI_.MATHEMATICAL BOL",
  "D CAPITAL DIGAMMApSMALL DIGAMMA(1D7CE)nDIGIT ZEROeONEdTWOcHREEfFOURdIVEeSIXcEVENfEIGHTfNINEp@-",
  "STRUCK DIGIT ZEROeONEdTWOcHREEfFOURdIVEeSIXcEVENfEIGHTfNINEySANS-SERIF DIGIT ZEROeONEdTWOcHREE",
  "fFOURdIVEeSIXcEVENfEIGHTfNINEkBOLD DIGIT ZEROeONEdTWOcHREEfFOURdIVEeSIXcEVENfEIGHTfNINE.MATHEM",
  "ATICAL MONOSPACE DIGIT ZEROeONEdTWOcHREEfFOURdIVEeSIXcEVENfEIGHTfNINE.SIGNWRITING HAND-FIST IN",
  "DEXkCIRCLE INDEXlUP INDEXjOVAL INDEXkHINGE INDEXlANGLE INDEXlFIST INDEX BENTpCIRCLE INDEX BENT",
  "rFIST THUMB UNDER INDEX BENTwINDEX RAISED KNUCKLEoCUPPEDgHINGEDa LOWvCIRCLE INDEX HINGEsFIST I",
  "NDEX MIDDLErCIRCLE INDEX MIDDLEtFIST INDEX MIDDLE BENTeRAISED KNUCKLESpHINGEDnUP MIDDLE HINGED",
  "qHINGED MIDDLE UPqMIDDLE CONJOINEDa INDEX BENTkMIDDLE BENTlCUPPEDgHINGEDpROSSEDzCIRCLE INDEX M",
  "IDDLE CROSSED.SIGNWRITING HAND-FIST MIDDLE BENT OVER INDEXwINDEX BENT OVER MIDDLEqMIDDLE THUMB",
  "xCIRCLE INDEX MIDDLE THUMBzFIST INDEX MIDDLE STRAIGHT THUMB BENTtBENT THUMB STRAIGHTtTHUMB BEN",
  "TkHINGED SPREAD THUMB SIDE.SIGNWRITING HAND-FIST INDEX UP MIDDLE HINGED THUMB SIDEeCONJOINED.S",
  "IGNWRITING HAND-FIST INDEX HINGED MIDDLE UP THUMB SIDE.SIGNWRITING HAND-FIST INDEX MIDDLE UP S",
  "PREAD THUMB FORWARDxTHUMB CUPPEDfIRCLEDhHOOKEDfINGEDzTHUMB BETWEEN INDEX MIDDLE STRAIGHT.SIGNW",
  "RITING HAND-FIST INDEX MIDDLE CONJOINED THUMB SIDEa CONJOINEDjBENT.SIGNWRITING HAND-FIST MIDDL",
  "E THUMB HOOKED INDEX UP.SIGNWRITING HAND-FIST INDEX THUMB HOOKED MIDDLE UPwMIDDLE CONJOINED HI",
  "NGED THUMB SIDE.SIGNWRITING HAND-FIST INDEX MIDDLE CROSSED THUMB SIDErONJOINED THUMB FORWARDnC",
  "UPPED THUMB FORWARD.SIGNWRITING HAND-FIST MIDDLE THUMB CUPPED INDEX UP.SIGNWRITING HAND-FIST I",
  "NDEX THUMB CUPPED MIDDLE UP.SIGNWRITING HAND-FIST MIDDLE THUMB CIRCLED INDEX UPcHINGED.SIGNWRI",
  "TING HAND-FIST INDEX THUMB ANGLED OUT MIDDLE UPnIN MIDDLE UPtCIRCLED MIDDLE UPxMIDDLE THUMB CO",
  "NJOINED HINGEDqANGLED OUTezMIDDLE THUMB ANGLED OUT INDEX UPcCROSSEDrINDEX UP.SIGNWRITING HAND-",
  "FIST INDEX THUMB HOOKED MIDDLE HINGED.SIGNWRITING HAND-FLAT FOUR FINGERSa BENTeHINGEDgCONJOINE",
  "Da SPLIT.SIGNWRITING HAND-CLAW FOUR FINGERS CONJOINED.SIGNWRITING HAND-FIST FOUR FINGERS CONJO",
  "INED BENT.SIGNWRITING HAND-HINGE FOUR FINGERS CONJOINED.SIGNWRITING HAND-FLAT FIVE FINGERS SPR",
  "EADtHEEL FIVE FINGERS SPREADyFIVE FINGERS SPREAD FOUR BENT.SIGNWRITING HAND-FLAT HEEL FIVE FIN",
  "GERS SPREAD FOUR BENT.SIGNWRITING HAND-FLAT FIVE FINGERS SPREAD BENTyHEEL FIVE FINGERS SPREA",
  "D BENT.SIGNWRITING HAND-FLAT FIVE FINGERS SPREAD THUMB FORWARD.SIGNWRITING HAND-CUP FIVE FINGE",
  "RS SPREADa OPEN.SIGNWRITING HAND-HINGE FIVE FINGERS SPREAD OPEN.SIGNWRITING HAND-OVAL FIVE FIN",
  "GERS SPREADyFLAT FIVE FINGERS SPREAD HINGEDa THUMB SIDEkNO THUMB.SIGNWRITING HAND-FLATa BETWEE",
  "N PALM FACINGSuHEELeTHUMB SIDEkHEEL THUMB SIDEpTHUMB BENTeFORWARDnSPLIT INDEX THUMB SIDEqCENTR",
  "Ea THUMB SIDEa BENTwLITTLErCLAWa THUMB SIDEkNO THUMBiTHUMB FORWARDsHOOK CURLICUEjeCUP OPENfa O",
  "PEN THUMB SIDEpTHUMB SIDEkOPEN NO THUMBnNO THUMBiOPEN THUMB FORWARDsTHUMB FORWARDpRLICUE OPENf",
  "hIRCLEgOVALa THUMB SIDEkNO THUMBiTHUMB FORWARDsHINGE OPENa THUMB FORWARDta SMALLfOPEN THUMB SI",
  "DEpTHUMB SIDEkOPEN NO THUMBnNO THUMBiTHUMB SIDE TOUCHING INDEXtBETWEEN MIDDLE RING.SIGNWRITIN",
  "G HAND-ANGLEfFIST INDEX MIDDLE RINGwCIRCLE INDEX MIDDLE RINGyHINGE INDEX MIDDLE RINGxANGLE IND",
  "EX MIDDLE RINGxHINGE LITTLEmFIST INDEX MIDDLE RING BENTeCONJOINED.SIGNWRITING HAND-HINGE INDE",
  "X MIDDLE RING CONJOINED.SIGNWRITING HAND-FIST LITTLE DOWNa RIPPLE STRAIGHTiCURVEDnOTHERS CIRCL",
  "EDtUPjTHUMB UNDER LITTLE UP.SIGNWRITING HAND-CIRCLE LITTLE UPqOVAL LITTLE UPoANGLE LITTLE UPpF",
  "IST LITTLE RAISED KNUCKLEoBENTeTOUCHES THUMBmHUMBrHINGE LITTLE THUMBsFIST LITTLE INDEX THUMBxH",
  "INGE LITTLE INDEX THUMByANGLE LITTLE INDEX THUMB INDEX THUMB OUTe.SIGNWRITING HAND-FIST LITTL",
  "E INDEXrCIRCLE LITTLE INDEXtHINGE LITTLE INDEXsANGLE LITTLE INDEXsFIST INDEX MIDDLE LITTLEyCIR",
  "CLE INDEX MIDDLE LITTLE.SIGNWRITING HAND-HINGE INDEX MIDDLE LITTLEtRINGkANGLE INDEX MIDDLE LIT",
  "TLEzFIST INDEX MIDDLE CROSS LITTLE.SIGNWRITING HAND-CIRCLE INDEX MIDDLE CROSS LITTLE.SIGNWRITI",
  "NG HAND-FIST RING DOWNoHINGE RING DOWN INDEX THUMB HOOK MIDDLE.SIGNWRITING HAND-ANGLE RING DOW",
  "N MIDDLE THUMB INDEX CROSS.SIGNWRITING HAND-FIST RING UPcRAISED KNUCKLEoLITTLEqCIRCLE RING LIT",
  "TLEsOVAL RING LITTLEqANGLE RING LITTLErFIST RING MIDDLEa CONJOINEDjRAISED KNUCKLESwINDEXfTHUMB",
  "pHOOK RING THUMBpFIST INDEX RING LITTLEwCIRCLE INDEX RING LITTLExURLICUE INDEX RING LITTLE ON.",
  "SIGNWRITING HAND-HOOK INDEX RING LITTLE OUTdINcUNDER.SIGNWRITING HAND-CUP INDEX RING LITTLEvHI",
  "NGE INDEX RING LITTLExANGLE INDEX RING LITTLE OUTexFIST MIDDLE DOWNqHINGE MIDDLEmFIST MIDDLE U",
  "PoCIRCLE MIDDLE UPqFIST MIDDLE RAISED KNUCKLEoUP THUMB SIDEzHOOK MIDDLE THUMBrFIST MIDDLE THUM",
  "B LITTLEmLITTLEgRING LITTLExCIRCLE MIDDLE RING LITTLEyURLICUE MIDDLE RING LITTLE ON.SIGNWRITIN",
  "G HAND-CUP MIDDLE RING LITTLEwHINGE MIDDLE RING LITTLEyANGLE MIDDLE RING LITTLE OUTdINdyCIRCL",
  "E MIDDLE RING LITTLE BENT.SIGNWRITING HAND-CLAW MIDDLE RING LITTLE CONJOINEDa SIDE.SIGNWRITIN",
  "G HAND-HOOK MIDDLE RING LITTLE CONJOINED OUTdINd.SIGNWRITING HAND-HINGE INDEX HINGEDsFIST INDE",
  "X THUMB SIDEvHINGE INDEX THUMB SIDEwFIST INDEX THUMB SIDE THUMB DIAGONALiCONJOINEDjBENTkINDE",
  "X BENTkBOTH BENTjINDEX HINGEqFORWARD INDEX STRAIGHTiBENTsHOOKeCURLICUEfVE THUMB INSIDE.SIGNWRI",
  "TING HAND-CLAW INDEX THUMB CURVE THUMB INSIDE.SIGNWRITING HAND-FIST INDEX THUMB CURVE THUMB UN",
  "DERqIRCLExCUP INDEX THUMBa OPENuHINGE INDEX THUMB OPENeLARGEga SMALLxANGLE INDEX THUMB OUTdINd",
  "rFIST THUMBa HEELeSIDE DIAGONALiCONJOINEDjBENTjFORWARDhBETWEEN INDEX MIDDLEmMIDDLE RINGlRING L",
  "ITTLEtUNDER TWO FINGERSrOVER TWO FINGERSqUNDER THREE FINGERSnFOUR FINGERSsOVER FOUR RAISED KNU",
  "CKLES.SIGNWRITING HAND-FISTa HEELoTOUCH SINGLEgMULTIPLEiBETWEENnGRASP SINGLEgMULTIPLEiBETWEENn",
  "STRIKE SINGLEgMULTIPLEiBETWEENoBRUSH SINGLEgMULTIPLEiBETWEENnRUB SINGLEgMULTIPLEiBETWEENlSURFA",
  "CE_ShBETWEENoQUEEZE LARGE SINGLEmSMALL SINGLEmLARGE MULTIPLEoSMALL MULTIPLEnEQUENTIALsFLICK LA",
  "RGE SINGLEmSMALL SINGLEmLARGE MULTIPLEoSMALL MULTIPLEnEQUENTIALqSQUEEZE FLICK ALTERNATINGzMOVE",
  "MENT-HINGE UP DOWN LARGEfSMALLkSEQUENTIALnDOWN SEQUENTIALpUP DOWN ALTERNATING LARGEfSMALLzSID",
  "E TO SIDE SCISSORS.SIGNWRITING MOVEMENT-WALLPLANE FINGER CONTACTyFLOORPLANE FINGER CONTACTzWAL",
  "LPLANE SINGLE STRAIGHT SMALLfMEDIUMgLARGEaSTqWRIST FLEXr@ STRAIGHTiWRIST FLEXkALTERNATINGa WRI",
  "ST FLEX.SIGNWRITING MOVEMENT-WALLPLANE CROSSfTRIPLE STRAIGHT MOVEMENTrWRIST FLEXkALTERNATING",
  "a WRIST FLEX.SIGNWRITING MOVEMENT-WALLPLANE BEND SMALLfMEDIUMgLARGEkCORNER SMALLfMEDIUMgLARGEf",
  "ROTATIONoHECK SMALLfMEDIUMgLARGElBOX SMALLfMEDIUMgLARGEjZIGZAG SMALLfMEDIUMgLARGEmPEAKS SMALLf",
  "MEDIUMgLARGE.SIGNWRITING TRAVEL-WALLPLANE ROTATION-WALLPLANE SINGLEg@gALTERNATINGvFLOORPLANE S",
  "INGLEg@gALTERNATING.SIGNWRITING TRAVEL-WALLPLANE SHAKINGhARM SPIRAL SINGLEg@gTRIPLE.SIGNWRITIN",
  "G MOVEMENT-DIAGONAL AWAY SMALLfMEDIUMgLARGEaSTmTOWARDS SMALLfMEDIUMgLARGEaSTpBETWEEN AWAY SMAL",
  "LfMEDIUMgLARGEaSTmTOWARDS SMALLfMEDIUMgLARGEaST.SIGNWRITING MOVEMENT-FLOORPLANE SINGLE STRAIGH",
  "T SMALLfMEDIUMgLARGEaSTqWRIST FLEXr@ STRAIGHTiWRIST FLEXkALTERNATINGa WRIST FLEX.SIGNWRITING M",
  "OVEMENT-FLOORPLANE CROSSfTRIPLE STRAIGHT MOVEMENTrWRIST FLEXkALTERNATING MOVEMENTiWRIST FLEX.S",
  "IGNWRITING MOVEMENT-FLOORPLANE BENDeCORNER SMALLfMEDIUMgLARGElHECKfBOX SMALLfMEDIUMgLARGEjZIGZ",
  "AG SMALLfMEDIUMgLARGEmPEAKS SMALLfMEDIUMgLARGE.SIGNWRITING TRAVEL-FLOORPLANE ROTATION-FLOORPLA",
  "NE SINGLEg@gALTERNATINGwWALLPLANE SINGLEg@gALTERNATING.SIGNWRITING TRAVEL-FLOORPLANE SHAKINGzM",
  "OVEMENT-WALLPLANE CURVE QUARTER SMALLfMEDIUMgLARGEaSTpHALF-CIRCLE SMALLfMEDIUMgLARGEaSTtTHREE-",
  "QUARTER CIRCLE SMALLfMEDIUM.SIGNWRITING MOVEMENT-WALLPLANE HUMP SMALLfMEDIUMgLARGEkLOOP SMALLf",
  "MEDIUMgLARGEfSMALL @rWAVE CURVE @ SMALLfMEDIUMgLARGEmTRIPLE SMALLfMEDIUMgLARGExCURVE THEN STRA",
  "IGHToD CROSS SMALLfMEDIUM.SIGNWRITING ROTATION-WALLPLANE SINGLEg@gALTERNATE.SIGNWRITING MOVEME",
  "NT-WALLPLANE SHAKINGhCURVE HITTING FRONT WALLyHUMP HITTING FRONT WALLxLOOP HITTING FRONT WALLx",
  "WAVE HITTING FRONT WALL.SIGNWRITING ROTATION-WALLPLANE SINGLE HITTING FRONT WALLz@ HITTING FRO",
  "NT WALLzALTERNATING HITTING FRONT WALL.SIGNWRITING MOVEMENT-WALLPLANE CURVE HITTING CHESTtHUM",
  "P HITTING CHESTsLOOP HITTING CHESTsWAVE HITTING CHEST.SIGNWRITING ROTATION-WALLPLANE SINGLE HI",
  "TTING CHESTu@ HITTING CHESTuALTERNATING HITTING CHEST.SIGNWRITING MOVEMENT-WALLPLANE WAVE DIAG",
  "ONAL PATH SMALLfMEDIUMgLARGE.SIGNWRITING MOVEMENT-FLOORPLANE CURVE HITTING CEILING SMALLfLARGE",
  ".SIGNWRITING MOVEMENT-FLOORPLANE HUMP HITTING CEILING SMALL @mLARGE @mSMALL TRIPLEmLARGE TRIPL",
  "E.SIGNWRITING MOVEMENT-FLOORPLANE LOOP HITTING CEILING SMALL SINGLEmLARGE SINGLEmSMALL @mLARG",
  "E @.SIGNWRITING MOVEMENT-FLOORPLANE WAVE HITTING CEILING SMALLfLARGE.SIGNWRITING ROTATION-FLOO",
  "RPLANE SINGLE HITTING CEILINGw@ HITTING CEILINGwALTERNATING HITTING CEILING.SIGNWRITING MOVEME",
  "NT-FLOORPLANE CURVE HITTING FLOOR SMALLfLARGEzHUMP HITTING FLOOR SMALL @mLARGE @mTRIPLE SMAL",
  "L TRIPLEmLARGE TRIPLE.SIGNWRITING MOVEMENT-FLOORPLANE LOOP HITTING FLOOR SMALL SINGLEmLARGE SI",
  "NGLEmSMALL @mLARGE @.SIGNWRITING MOVEMENT-FLOORPLANE WAVE HITTING FLOOR SMALLfLARGE.SIGNWRITIN",
  "G ROTATION-FLOORPLANE SINGLE HITTING FLOORu@ HITTING FLOORuALTERNATING HITTING FLOOR.SIGNWRITI",
  "NG MOVEMENT-FLOORPLANE CURVE SMALLfMEDIUMgLARGEaSThCOMBINEDoHUMP SMALLkLOOP SMALLkWAVE SNAKEeM",
  "ALLfLARGE.SIGNWRITING ROTATION-FLOORPLANE SINGLEg@gALTERNATING.SIGNWRITING MOVEMENT-FLOORPLAN",
  "E SHAKING PARALLEL.SIGNWRITING MOVEMENT-WALLPLANE ARM CIRCLE SMALL SINGLEmMEDIUM SINGLEnSMAL",
  "L @mMEDIUM @.SIGNWRITING MOVEMENT-FLOORPLANE ARM CIRCLE HITTING WALL SMALL SINGLEmMEDIUM SINGL",
  "EnLARGE SINGLEmSMALL @mMEDIUM @nLARGE @.SIGNWRITING MOVEMENT-WALLPLANE WRIST CIRCLE FRONT SING",
  "LEg@.SIGNWRITING MOVEMENT-FLOORPLANE WRIST CIRCLE HITTING WALL SINGLEg@.SIGNWRITING MOVEMENT-W",
  "ALLPLANE FINGER CIRCLES SINGLEg@.SIGNWRITING MOVEMENT-FLOORPLANE FINGER CIRCLES HITTING WALL S",
  "INGLEg@.SIGNWRITING DYNAMIC:HEAD SMALLfLARGEpFASTeSLOWeTENSEfRELAXEDhSIMULTANEOUSa ALTERNATING",
  "yEVERY OTHER TIMEqGRADUALpHEADa RIMdMOVEMENT-WALLPLANE STRAIGHTiTILToFLOORPLANE STRAIGHTtWALLP",
  "LANE CURVEpFLOORPLANE CURVEr CIRCLEuFACE DIRECTION POSITION NOSE FORWARD TILTINGpUP OR DOWNa T",
  "ILTING.SIGNWRITING EYEBROWS STRAIGHT UPcNEUTRALhDOWNwDREAMY EYEBROWS NEUTRAL DOWNmDOWN NEUTRAL",
  "mUP NEUTRALkNEUTRAL UP.SIGNWRITING FOREHEAD NEUTRALhCONTACThWRINKLEDrEYES OPENeSQUEEZEDiCLOSED",
  "i BLINK SINGLEgMULTIPLEpS HALF OPENjWIDE OPENjHALF CLOSEDlWIDENING MOVEMENTt WINKfLASHES UPcDO",
  "WNeFLUTTERINGrGAZE-WALLPLANE STRAIGHTa @gALTERNATING.SIGNWRITING EYEGAZE-FLOORPLANE STRAIGHT",
  "a @gALTERNATING.SIGNWRITING EYEGAZE-WALLPLANE CURVEDqFLOORPLANE CURVEDrWALLPLANE CIRCLING.SIGN",
  "WRITING CHEEKS PUFFEDgNEUTRALhSUCKEDnTENSE CHEEKS HIGHeMIDDLEgLOWqEARSeNOSE NEUTRALhCONTACThWR",
  "INKLEShIGGLESmAIR BLOWING OUTlSUCKING INkBLOW SMALL ROTATIONSuSUCK SMALL ROTATIONSyBREATH INHA",
  "LEgEXHALEnMOUTH CLOSED NEUTRALhFORWARDhCONTACToSMILEa WRINKLEDiOPENkFROWNa WRINKLEDiOPENkOPE",
  "N CIRCLEgFORWARDhWRINKLEDiOVALa WRINKLEDiYAWNjRECTANGLEa WRINKLEDiYAWNtKISSa FORWARDhWRINKLEDn",
  "TENSEa FORWARDhSUCKEDsLIPS PRESSED TOGETHERs LOWER OVER UPPERqUPPER OVER LOWERuMOUTH CORNERShW",
  "RINKLES SINGLEg@vTONGUE STICKING OUT FARqLICKING LIPSmTIP BETWEEN LIPSmTOUCHING INSIDE MOUTHzI",
  "NSIDE MOUTH RELAXEDuMOVES AGAINST CHEEKtCENTRE STICKING OUTmINSIDE MOUTHzEETHa MOVEMENTiON TON",
  "GUEa MOVEMENTpLIPSa MOVEMENTqBITE LIPSpMOVEMENT-WALLPLANE JAWnFLOORPLANE JAWxNECKeHAIReEXCITEM",
  "ENTkSHOULDER HIP SPINEfPOSITIONSwWALLPLANE SHOULDER HIP MOVE.SIGNWRITING FLOORPLANE SHOULDER H",
  "IP MOVE.SIGNWRITING SHOULDER TILTING FROM WAIST.SIGNWRITING TORSO-WALLPLANE STRAIGHT STRETCHqC",
  "URVED BENDvFLOORPLANE TWISTINGzUPPER BODY TILTING FROM HIP JOINTS.SIGNWRITING LIMB COMBINATION",
  "lLENGTH-1b2b3b4b5b6b7nFINGERgLOCATION-WALLPLANE SPACEpFLOORPLANE SPACEr HEIGHTgWIDTHfDEPTHfHEA",
  "D NECKjTORSOfLIMBS DIGITSvCOMMAfFULL STOPjSEMICOLONjCOLONfPARENTHESIS(1DA9B)lFILL MODIFIER-2b3",
  "b4b5b6(1DAA1)pROTATION MODIFIER-2b3b4b5b6b7b8b9b10b1b2b3b4b5b6(1DF00).LATIN SMALL$FENG DIGRAPH",
  "%TRILLxREVERSED SCRIPT G.LATIN$SMALL CAPITAL TURNED G.LATIN SMALL$REVERSED K.LATIN$SMALL CAPIT",
  "AL L%BELT.LATIN SMALL$LEZH%RETROFLEX HOOKyTURNED Y%BELTsREVERSED ENGmTURNED R%LONG LEG+RETROFL",
  "EX HOOK.LATIN SMALL$T%HOOK+RETROFLEX HOOK.LATIN$RETROFLEX CLICK%RETROFLEX HOOK.LATIN SMALL$ESH",
  "%@ BARa+CURL.LATIN SMALL$TURNED T%CURL.LATIN$INVERTED GLOTTAL STOP%CURL.LATIN$STRETCHED C%CURL",
  "uMALL CAPITAL TURNED K.LATIN SMALL$L%FISHHOOKpDEZH DIGRAPH%PALATAL HOOK.LATIN SMALL$L%BELT+PAL",
  "ATAL HOOK.LATIN SMALL$ENG%PALATAL HOOKvTURNED R%PALATAL HOOK.LATIN SMALL$R%FISHHOOK+PALATAL HO",
  "OK.LATIN SMALL$TESH DIGRAPH%PALATAL HOOK.LATIN SMALL$EZH%PALATAL HOOKvDEZH DIGRAPH%RETROFLEX H",
  "OOK.LATIN SMALL$I%STROKE+RETROFLEX HOOK.LATIN SMALL$O%RETROFLEX HOOKvTESH DIGRAPH%RETROFLEX HO",
  "OK.LATIN SMALL$C%RETROFLEX HOOKvS%CURL(1E000).COMBINING GLAGOLITIC$AZUdBUKYeVEDEeGLAGOLIhDOBRO",
  "fYESTUfZHIVETE(1E008)gEMLJAgIZHEdNITIAL IZHElbDJERVIgKAKOeLJUDIJEhMYSLITEhNASHIfONUdPOKOJIgRIT",
  "SIfSLOVOfTVRIDOgUKUdFRITUfHERU(1E01B)eSHTAeTSIdCHRIVIgSHAdYERUbIdATI(1E023)dUcSMALL YUS(1E026)",
  "jYOcIOTATED SMALL YUSrBIG YUShIOTATED BIG YUSpFITA(1E100).NYIAKENG PUACHUE HMONG$MAcTSAdNTAdTA",
  "cHAcNAcXAcNKAdCAcLAcSAcZAcNCAcTSAeKAcDAcNYAcRAdVAcNTXAeTXAdFAcRAcQAcYAcNQAdPAcXYAdNPAdDLAdNPLA",
  "eHAHdMLAdPLAdGAcRRAdAaAcIbUbOaOcEaEcW(1E130)iTONE-BbMbJbVbSbGbDgSIGN FOR PERSONgTHINGfLOCATION",
  "iANIMALgINVERTEBRATEqXW XWjYLLABLE LENGTHENER(1E140)tDIGIT ZEROeONEdTWOcHREEfFOURdIVEeSIXcEVEN",
  "fEIGHTfNINE(1E14E)kLOGOGRAM NYAJnCIRCLED CA(1E290).TOTO$PAcBAcTAcDAcKAcGAcMAcNAbGAdSAcCHAdYAcW",
  "AcJAcHAcRAcLAcIbBREATHY IjIUcBREATHY IUkUbEbBREATHY EjEOcBREATHY EOkObAEcBREATHY AEkAiSIGN RIS",
  "ING TONE(1E2C0).WANCHO$AAbbBAcCAcDAcGAcYAcPHAdLAcNAcPAcTAbHAdFAcSAbHAdJAcZAcWAcVAcKAcObAUcRAcM",
  "AcKHAdHAcEbIbNGAdUbLLHAeTSAcRAdONGdAANGdNGdINGdONcENcAANdNYAdUENdYIHkTONE TUPaNIfKOIaNIkDIGI",
  "T ZEROeONEdTWOcHREEfFOURdIVEeSIXcEVENfEIGHTfNINE(1E2FF)kNGUN;(1E7E0).ETHIOPIC SYLLABLE HHYAbUb",
  "IbAAcEEbbO(1E7E8)eGURAGE HHWAlHHWIbEEb(1E7ED)eGURAGE MWIbEE(1E7F0)eQWIbEEbdBWIbEEeKWIbEEbdGWIb",
  "EEbdFWIbEEePWIbEE(1E800).MENDE KIKAKUI SYLLABLE M001 KIe2 KAe3 KUf65 KEEg95 KEf76 KOOg48 KOg17",
  "9 KUAh004 WIe5 WAe6 WUg126 WEEg18 WEe4 WOOh045 WOg194 WUIg43 WEIh061 WVIg49 WVAh139 WVEh007 MI",
  "Nf8 MANf9 MUNg59 MENg94 MONh154 MUANh89 MUENi010 BIe1 BAe2 BUg150 BEEh097 BEg103 BOOg38 BOg01",
  "3 Id4 Ad5 Uf163 EEf00 Ee65 OOf47 Oe37 EIe1 INe5 INf95 ANf78 ENg019 SIf20 SAe1 SUg162 SEEg16 SE",
  "f36 SOOh079 SOg196 SIAh025 LIe6 LAe7 LUf84 LEEg73 LEf54 LOOh153 LOf10 LONG LEl016 DIe7 DAe8 DU",
  "f89 DEEh180 DOOf1 DOg022 TIe3 TAe4 TUf91 TEEg55 TEg104 TOOh069 TOf28 JIe9 JAf30 JUg157 JEEg1",
  "3 JEf60 JOOh063 JOg175 LONG JOl031 YIe2 YAe3 YUg109 YEEh080 YEg141 YOOg21 YOg034 FIe5 FAe6 FUf",
  "78 FEEf5 FEg133 FOOh088 FOg197 FUAg01 FANh037 NINf8 NANf9 NUNh117 NENg69 NONg76 HIg041 HAg18",
  "6 HUg040 HEEg96 HEf42 HOOh140 HOg083 HEEIi128 HOOUi053 HINh130 HANh087 HUNg52 HENh193 HONh04",
  "6 HUANh90 NGGIh43 NGGAh82 NGGUi115 NGGEEi46 NGGEh56 NGGOOi20 NGGOh59 NGGAAi27 NGGUAj086 LONG N",
  "GGEn106 LONG NGGOOn83 LONG NGGOm55 GIf11 GAf68 GUf90 GEEg66 GUEIg7 GUANh84 NGENi057 NGONi177 N",
  "GUANj068 PIf99 PAf50 PUf81 PEEg51 PEg102 POOh066 POg145 MBIh062 MBAh122 MBUh047 MBEEi188 MBEEi",
  "072 MBEh172 MBOOg4 MBOg87 MBUUh61 LONG MBEl05 LONG MBOOm42 LONG MBOl32 KPIh092 KPAg74 KPUg44 K",
  "PEEi108 KPEg12 KPOOh58 KPOg24 GBIh056 GBAh148 GBUh093 GBEEi107 GBEh071 GBOOg0 GBOh171 RAf23 ND",
  "If9 NDAf5 NDUg91 NDEEh19 NDEh067 NDOOg4 NDOh152 NJAg92 NJUg49 NJEEh34 NJOOh82 VIe5 VAf51 VUf7",
  "3 VEEh085 VEg144 VOOh077 VOg164 NYINi058 NYANi170 NYUNi098 NYENh60 NYON(1E8C7)sDIGIT ONEdTWOcH",
  "REEfFOURdIVEeSIXcEVENfEIGHTfNINEkCOMBINING NUMBER TEENSdNSeHUNDREDSiTHOUSANDSiEN THOUSANDSnHUN",
  "DRED THOUSANDSrMILLIONS(1E900).ADLAM CAPITAL$ALIFeDAALIfLAAMeMIIMeBAcSINNYIIYHEkPEcBHEdRAcEbFA",
  "cIbObDHAdYHEdWAWdNUNdKAFdYAcUbJIIMeCHIdHAcQAAFeGAcNYAdTUcNHAdVAcKHAdGBEdZALdKPOdSHAsSMALL$ALIF",
  "eDAALIfLAAMeMIIMeBAcSINNYIIYHEkPEcBHEdRAcEbFAcIbObDHAdYHEdWAWdNUNdKAFdYAcUbJIIMeCHIdHAcQAAFeGA",
  "cNYAdTUcNHAdVAcKHAdGBEdZALdKPOdSHAqALIF LENGTHENERpVOWEL LENGTHENERqGEMINATION|pHAMZAfCONSONAN",
  "T MODIFIERsGEMINATE CONSONANT MODIFIER.ADLAM NUKTAeASALIZATION|(1E950)rDIGIT ZEROeONEdTWOcHREE",
  "fFOURdIVEeSIXcEVENfEIGHTfNINE(1E95E)kINITIAL EXCLAMATION|qQUESTION|(1EC71).INDIC SIYAQ NUMBE",
  "R ONEdTWOcHREEfFOURdIVEeSIXcEVENfEIGHTfNINEeTENcWENTYfHIRTYgFORTYeIFTYfSIXTYeEVENTYhEIGHTYgNIN",
  "ETYgONE HUNDREDlTWO HUNDREDkHREE HUNDREDnFOUR HUNDREDlIVE HUNDREDmSIX HUNDREDkEVEN HUNDREDnEIG",
  "HT HUNDREDnNINE HUNDREDmONE THOUSANDmTWO THOUSANDlHREE THOUSANDoFOUR THOUSANDmIVE THOUSANDnSI",
  "X THOUSANDlEVEN THOUSANDoEIGHT THOUSANDoNINE THOUSANDnTEN THOUSANDlWENTY THOUSANDoHIRTY THOUSA",
  "NDpFORTY THOUSANDnIFTY THOUSANDoSIXTY THOUSANDnEVENTY THOUSANDqEIGHTY THOUSANDpNINETY THOUSAND",
  "pLAKHaANnLAKH|jNUMBER KARORaANhPREFIXED ONEdTWOcHREEfFOURdIVEeSIXcEVENfEIGHTfNINEuPLACEHOLDERl",
  "FRACTION ONE QUARTERhHALFiTHREE QUARTERSxRUPEE|kNUMBER ALTERNATE ONEdTWOcEN THOUSAND.INDIC SIY",
  "AQ ALTERNATE LAKH|(1ED01).OTTOMAN SIYAQ NUMBER ONEdTWOcHREEfFOURdIVEeSIXcEVENfEIGHTfNINEeTENcW",
  "ENTYfHIRTYgFORTYeIFTYfSIXTYeEVENTYhEIGHTYgNINETYgONE HUNDREDlTWO HUNDREDkHREE HUNDREDnFOUR HUN",
  "DREDlIVE HUNDREDmSIX HUNDREDkEVEN HUNDREDnEIGHT HUNDREDnNINE HUNDREDmONE THOUSANDmTWO THOUSAND",
  "lHREE THOUSANDoFOUR THOUSANDmIVE THOUSANDnSIX THOUSANDlEVEN THOUSANDoEIGHT THOUSANDoNINE THOUS",
  "ANDnTEN THOUSANDlWENTY THOUSANDoHIRTY THOUSANDpFORTY THOUSANDnIFTY THOUSANDoSIXTY THOUSANDnEVE",
  "NTY THOUSANDqEIGHTY THOUSANDpNINETY THOUSANDwMARRATANiALTERNATE NUMBER TWOcHREEfFOURdIVEeSIXcE",
  "VENfEIGHTfNINEeTENdFOUR HUNDREDmSIX HUNDREDlTWO THOUSANDlEN THOUSAND.OTTOMAN SIYAQ FRACTION ON",
  "E HALFeSIXTH(1EE00).ARABIC MATHEMATICAL ALEFeBEHdJEEMeDAL(1EE05)dWAWdZAINeHAHdTAHdYEHdKAFdLAMd",
  "MEEMeNOONeSEENeAINdFEHdSADdQAFdREHdSHEENfTEHcHEHeKHAHeTHALeDADdZAHdGHAINfDOTLESS BEHdNOONeFEHd",
  "QAF(1EE21)lINITIAL BEHdJEEM(1EE24)eHEH(1EE27)cAH(1EE29)dYEHdKAFdLAMdMEEMeNOONeSEENeAINdFEHdSAD",
  "dQAF(1EE34)dSHEENfTEHcHEHeKHAH(1EE39)eDAD(1EE3B)dGHAIN(1EE42)nTAILED JEEM(1EE47)eHAH(1EE49)dYE",
  "H(1EE4B)dLAM(1EE4D)dNOONeSEENeAIN(1EE51)dSADdQAF(1EE54)dSHEEN(1EE57)fKHAH(1EE59)eDAD(1EE5B)dGH",
  "AIN(1EE5D)fDOTLESS NOON(1EE5F)eQAF(1EE61)sSTRETCHED BEHdJEEM(1EE64)eHEH(1EE67)cAHdTAHdYEHdKAF(",
  "1EE6C)dMEEMeNOONeSEENeAINdFEHdSADdQAF(1EE74)dSHEENfTEHcHEHeKHAH(1EE79)eDADdZAHdGHAINfDOTLESS B",
  "EH(1EE7E)dFEH(1EE80)vLOOPED ALEFeBEHdJEEMeDALdHEHdWAWdZAINeHAHdTAHdYEH(1EE8B)dLAMdMEEMeNOONeSE",
  "ENeAINdFEHdSADdQAFdREHdSHEENfTEHcHEHeKHAHeTHALeDADdZAHdGHAIN(1EEA1)m@-STRUCK BEHdJEEMeDAL(1EEA",
  "5)dWAWdZAINeHAHdTAHdYEH(1EEAB)dLAMdMEEMeNOONeSEENeAINdFEHdSADdQAFdREHdSHEENfTEHcHEHeKHAHeTHALe",
  "DADdZAHdGHAIN(1EEF0)tOPERATOR MEEM%HAH%TATWEEL.ARABIC MATHEMATICAL OPERATOR HAH%DAL(1F000).MAH",
  "JONG TILE EAST WINDjSOUTH WINDkWEST WINDjNORTH WINDkRED DRAGONkGREEN DRAGONmWHITE DRAGONmONE O",
  "F CHARACTERSrTWO OF CHARACTERSqHREE OF CHARACTERStFOUR OF CHARACTERSrIVE OF CHARACTERSsSIX O",
  "F CHARACTERSqEVEN OF CHARACTERStEIGHT OF CHARACTERStNINE OF CHARACTERSsONE OF BAMBOOSoTWO OF B",
  "AMBOOSnHREE OF BAMBOOSqFOUR OF BAMBOOSoIVE OF BAMBOOSpSIX OF BAMBOOSnEVEN OF BAMBOOSqEIGHT O",
  "F BAMBOOSqNINE OF BAMBOOSpONE OF CIRCLESoTWO OF CIRCLESnHREE OF CIRCLESqFOUR OF CIRCLESoIVE O",
  "F CIRCLESpSIX OF CIRCLESnEVEN OF CIRCLESqEIGHT OF CIRCLESqNINE OF CIRCLESpPLUMeORCHIDgBAMBOOgC",
  "HRYSANTHEMUMnSPRINGfUMMERgAUTUMNgWINTERgJOKERfBACK(1F030).DOMINO TILE HORIZONTAL BACKf-00-00b1",
  "b2b3b4b5b6e1-00b1b2b3b4b5b6e2-00b1b2b3b4b5b6e3-00b1b2b3b4b5b6e4-00b1b2b3b4b5b6e5-00b1b2b3b4b5b",
  "6e6-00b1b2b3b4b5b6q,BACKf-00-00b1b2b3b4b5b6e1-00b1b2b3b4b5b6e2-00b1b2b3b4b5b6e3-00b1b2b3b4b5b6",
  "e4-00b1b2b3b4b5b6e5-00b1b2b3b4b5b6e6-00b1b2b3b4b5b6(1F0A0).PLAYING CARD BACKeACE OF SPADESnTW",
  "O OF SPADESmHREE OF SPADESpFOUR OF SPADESnIVE OF SPADESoSIX OF SPADESmEVEN OF SPADESpEIGHT O",
  "F SPADESpNINE OF SPADESoTEN OF SPADESnJACK OF SPADESoKNIGHT OF SPADESqQUEEN OF SPADESpKING O",
  "F SPADES(1F0B1)oACE OF HEARTSnTWO OF HEARTSmHREE OF HEARTSpFOUR OF HEARTSnIVE OF HEARTSoSIX O",
  "F HEARTSmEVEN OF HEARTSpEIGHT OF HEARTSpNINE OF HEARTSoTEN OF HEARTSnJACK OF HEARTSoKNIGHT O",
  "F HEARTSqQUEEN OF HEARTSpKING OF HEARTSoRED JOKER(1F0C1)jACE OF DIAMONDSpTWO OF DIAMONDSoHRE",
  "E OF DIAMONDSrFOUR OF DIAMONDSpIVE OF DIAMONDSqSIX OF DIAMONDSoEVEN OF DIAMONDSrEIGHT OF DIAMO",
  "NDSrNINE OF DIAMONDSqTEN OF DIAMONDSpJACK OF DIAMONDSqKNIGHT OF DIAMONDSsQUEEN OF DIAMONDSrKIN",
  "G OF DIAMONDSq~ JOKER(1F0D1)lACE OF CLUBSmTWO OF CLUBSlHREE OF CLUBSoFOUR OF CLUBSmIVE OF CLUB",
  "SnSIX OF CLUBSlEVEN OF CLUBSoEIGHT OF CLUBSoNINE OF CLUBSnTEN OF CLUBSmJACK OF CLUBSnKNIGHT O",
  "F CLUBSpQUEEN OF CLUBSoKING OF CLUBSnWHITE JOKERlFOOLeTRUMP-1b2b3b4b5b6b7b8b9b10b1b2b3b4b5b6b7",
  "b8b9c20b1(1F100).DIGIT ZERO FULL STOPjCOMMAkONE COMMAjTWO COMMAiHREE COMMAlFOUR COMMAjIVE COMM",
  "AkSIX COMMAiEVEN COMMAlEIGHT COMMAlNINE COMMAoNGBAT CIRCLED SANS-SERIF DIGIT ZERO.DINGBAT NEGA",
  "TIVE CIRCLED SANS-SERIF DIGIT ZERO.CIRCLED ZERO%SLASHpANTICLOCKWISE:tDOLLAR;%OVERLAID BACKSLAS",
  "H.PARENTHESIZED LATIN CAPITAL$AbBbCbDbEbFbGbHbIbJbKbLbMbNbObPbQbRbSbTbUbVbWbXbYbZ.TORTOISE SHE",
  "LL BRACKETED LATIN CAPITAL$S.CIRCLED ITALIC LATIN CAPITAL$CbR.CIRCLED CDcWZjOPY>_.SQUARED LATI",
  "N CAPITAL$AbBbCbDbEbFbGbHbIbJbKbLbMbNbObPbQbRbSbTbUbVbWbXbYbZwHVcMVcSDbScPPVdWC.NEGATIVE CIRCL",
  "ED LATIN CAPITAL$AbBbCbDbEbFbGbHbIbJbKbLbMbNbObPbQbRbSbTbUbVbWbXbYbZ.RAISED MC;gD;gR;.CIRCLE",
  "D CCb%OVERLAID BACKSLASHzHUMAN FIGURE.NEGATIVE SQUARED LATIN CAPITAL$AbBbCbDbEbFbGbHbIbJbKbLbM",
  "bNbObPbQbRbSbTbUbVbWbXbYbZ.CROSSED NEGATIVE SQUARED LATIN CAPITAL$P.NEGATIVE SQUARED ICcPAcSAc",
  "ABcWC.SQUARE DJdD CLbOOLeFREEeIDcNEWcGcOKcSOSdUP%EXCLAMATION|yVScTHREE DhSECOND SCREENnTWO KfF",
  "OUR KgEIGHT KhFIVE POINT ONEoSEVEN POINT ONEpTWENTY-TWO POINT TWOuSIXTY PhONE HUNDRED TWENTY P",
  "uLATIN SMALL$DuHCbDRcI-RESgLOSSLESSiSHVdUHDdVOD.MASK WORK_(1F1E6).REGIONAL INDICATOR_$AbBbCbDb",
  "EbFbGbHbIbJbKbLbMbNbObPbQbRbSbTbUbVbWbXbYbZ.SQUARE HIRAGANA HOKAoD KATAKANA KOKOeSA(1F210)lCJ",
  "K UNIFIED IDEOGRAPH-624Be5B57d3CC.SQUARED KATAKANA DElCJK UNIFIED IDEOGRAPH-4E8Ce591Ae89E3e592",
  "9e4EA4e6620e7121e6599e524DdF8Cd18De65B0e521De7D42d51Fe8CA9e58F0d439e6F14d295d355e4E00b9e904Ae5",
  "DE6e4E2De53F3e6307e8D70e6253e7981dA7Ae5408e6E80d709b8e7533e5272d5B6e914D(1F240).TORTOISE SHEL",
  "L BRACKETED CJK UNIFIED IDEOGRAPH-672Ce4E09c8Ce5B89e70B9e6253e76D7e52DDe6557(1F250).CIRCLED ID",
  "EOGRAPH ADVANTAGEiCCEPT(1F260).ROUNDED_ FOR FUcLUcSHOUeXIcSHUANGXIiCAI(1F300).CYCLONE.FOGGY.CL",
  "OSED UMBRELLA.NIGHT%STARS.SUNRISE OVER MOUNTAINSp.CITYSCAPE AT DUSK.SUNSET OVER BUILDINGS.RAIN",
  "BOW.BRIDGE AT NIGHT.WATER WAVE.VOLCANO.MILKY WAY.EARTH GLOBE EUROPE-AFRICAnAMERICAShSIA-AUSTRA",
  "LIA.GLOBE%MERIDIANS.NEW MOON_.WAXING CRESCENT MOON_.FIRST QUARTER MOON_.WAXING GIBBOUS MOON_.F",
  "ULL MOON_.WANING GIBBOUS MOON_.LAST QUARTER MOON_.WANING CRESCENT MOON_.CRESCENT MOON.NEW MOON",
  "%FACE.FIRST QUARTER MOON%FACE.LAST QUARTER MOON%FACE.FULL MOON%FACE.SUN%FACE.GLOWING STAR.SHOO",
  "TING STAR.THERMOMETER.~ DROPLET.WHITE SUNa%SMALL CLOUDqBEHIND CLOUDa%RAIN.CLOUD%RAINeSNOWeLIGH",
  "TNINGjTORNADO.FOG.WIND BLOWING FACE.HOT DOG.TACO.BURRITO.CHESTNUT.SEEDLING.EVERGREEN TREE.DECI",
  "DUOUS TREE.PALM TREE.CACTUS.HOT PEPPER.TULIP.CHERRY BLOSSOM.ROSE.HIBISCUS.SUNFLOWER.BLOSSOM.EA",
  "R OF MAIZEfRICE.HERB.FOUR LEAF CLOVER.MAPLE LEAF.FALLEN LEAF.LEAF FLUTTERING IN WIND.MUSHROOM.",
  "TOMATO.AUBERGINE.GRAPES.MELON.WATERMELON.TANGERINE.LEMON.BANANA.PINEAPPLE.RED APPLE.GREEN APPL",
  "E.PEARbCH.CHERRIES.STRAWBERRY.HAMBURGER.SLICE OF PIZZA.MEAT ON BONE.POULTRY LEG.RICE CRACKERhB",
  "ALL.COOKED RICEkURRY+RICE.STEAMING BOWLmPAGHETTI.BREAD.FRENCH FRIES.ROASTED SWEET POTATO.DANGO",
  ".ODEN.SUSHI.FRIED SHRIMPlISH CAKE%SWIRL DESIGN.SOFT ICE CREAMnHAVED ICE.ICE CREAM.DOUGHNUT.COO",
  "KIEfHOCOLATE BARmANDY.LOLLIPOP.CUSTARD.HONEY POT.SHORTCAKE.BENTO BOX.POT OF FOOD.COOKING.FORK+",
  "KNIFE.TEACUP WITHOUT HANDLE.SAKE BOTTLE+CUP.WINE GLASS.COCKTAIL GLASS.TROPICAL DRINK.BEER MUG.",
  "CLINKING BEER MUGS.BABY BOTTLE.FORK+KNIFE%PLATE.BOTTLE%POPPING CORK.POPCORN.RIBBON.WRAPPED PRE",
  "SENT.BIRTHDAY CAKE.JACK-O-LANTERN.CHRISTMAS TREE.FATHER CHRISTMASpIREWORKSb SPARKLER.BALLOON.P",
  "ARTY POPPER.CONFETTI BALL.TANABATA TREE.CROSSED FLAGS.PINE DECORATION.JAPANESE DOLLS.CARP STRE",
  "AMER.WIND CHIME.MOON VIEWING CEREMONY.SCHOOL SATCHEL.GRADUATION CAP.HEART%TIP ON THE >.BOUQUE",
  "T OF FLOWERS.MILITARY MEDAL.REMINDER RIBBON.MUSICAL KEYBOARD%JACKS.STUDIO MICROPHONE.LEVEL SLI",
  "DER.CONTROL KNOBS.BEAMED ASCENDING MUSICAL NOTESxDESCENDING MUSICAL NOTES.FILM FRAMES.ADMISSIO",
  "N TICKETS.CAROUSEL HORSE.FERRIS WHEEL.ROLLER COASTER.FISHING POLE+FISH.MICROPHONEjOVIE CAMERA.",
  "CINEMA.HEADPHONE.ARTIST PALETTE.TOP HAT.CIRCUS TENT.TICKET.CLAPPER BOARD.PERFORMING ARTS.VIDE",
  "O GAME.DIRECT HIT.SLOT MACHINE.BILLIARDS.GAME DIE.BOWLING.FLOWER PLAYING CARDS.MUSICAL NOTEkLT",
  "IPLE MUSICAL NOTES.SAXOPHONE.GUITAR.MUSICAL KEYBOARD.TRUMPET.VIOLIN.MUSICAL SCORE.RUNNING SHIR",
  "T%SASH.TENNIS RACQUET+BALL.SKI+SKI BOOT.BASKETBALL+HOOP.CHEQUERED FLAG.SNOWBOARDER.RUNNER.SURF",
  "ERfPORTS MEDAL.TROPHY.HORSE RACING.AMERICAN FOOTBALL.RUGBY FOOTBALL.SWIMMER.WEIGHT LIFTER.GOLF",
  "ER.RACING MOTORCYCLEkCAR.CRICKET BAT+BALL.VOLLEYBALL.FIELD HOCKEY STICK+BALL.ICE HOCKEY STICK+",
  "PUCK.TABLE TENNIS PADDLE+BALL.SNOW CAPPED MOUNTAIN.CAMPING.BEACH%UMBRELLAsUILDING CONSTRUCTION",
  ".HOUSE BUILDINGS.CITYSCAPE.DERELICT HOUSE BUILDING.CLASSICAL BUILDING.DESERTa ISLAND.NATIONA",
  "L PARK.STADIUM.HOUSE BUILDINGiWITH GARDEN.OFFICE BUILDING.JAPANESE POST OFFICE.EUROPEAN POST O",
  "FFICE.HOSPITAL.BANK.AUTOMATED TELLER MACHINE.HOTEL.LOVE HOTEL.CONVENIENCE STORE.SCHOOL.DEPARTM",
  "ENT STORE.FACTORY.IZAKAYA LANTERN.JAPANESE CASTLE.EUROPEAN CASTLE.WHITE PENNANT.~ PENNANT.WAVI",
  "NG WHITE FLAGk~ FLAG.ROSETTE.~ ROSETTE.LABEL.BADMINTON RACQUET+SHUTTLECOCK.BOW AND:.AMPHORA.EM",
  "OJI MODIFIER FITZPATRICK TYPE-1-2d3b4b5b6.RAT.MOUSE.OX.WATER BUFFALO.COW.TIGER.LEOPARD.RABBIT.",
  "CAT.DRAGON.CROCODILE.WHALE.SNAILcKE.HORSE.RAM.GOAT.SHEEP.MONKEY.ROOSTER.CHICKEN.DOG.PIG.BOAR.E",
  "LEPHANT.OCTOPUS.SPIRAL SHELL.BUG.ANT.HONEYBEE.LADY BEETLE.FISH.TROPICAL FISH.BLOWFISH.TURTLE.H",
  "ATCHING CHICK.BABY CHICK.FRONT-FACING BABY CHICK.BIRD.PENGUIN.KOALA.POODLE.DROMEDARY CAMEL.BAC",
  "TRIAN CAMEL.DOLPHIN.MOUSE FACE.COW FACE.TIGER FACE.RABBIT FACE.CAT FACE.DRAGON FACE.SPOUTING W",
  "HALE.HORSE FACE.MONKEY FACE.DOG FACE.PIG FACE.FROG FACE.HAMSTER FACE.WOLF FACE.BEAR FACE.PAND",
  "A FACEjIG NOSEhAW PRINTS.CHIPMUNK.EYESbcAR.NOSE.MOUTH.TONGUE.WHITE UP POINTING BACKHAND INDEX.",
  "WHITE DOWN POINTING BACKHAND INDEX.WHITE > POINTING BACKHAND INDEX.WHITE * POINTING BACKHAND I",
  "NDEX.FISTED HAND;.WAVING HAND;.OK HAND;.THUMBS UP;hDOWN;.CLAPPING HANDS;.OPEN HANDS;.CROWN.WOM",
  "ANS HAT.EYEGLASSES.NECKTIE.T-SHIRT.JEANS.DRESS.KIMONO.BIKINI.WOMANS CLOTHES.PURSE.HANDBAG.POUC",
  "H.MANS SHOE.ATHLETIC SHOE.HIGH-HEELED SHOE.WOMANS SANDALgBOOTS.FOOTPRINTS.BUST IN SILHOUETTEo",
  "S IN SILHOUETTEsOY.GIRL.MAN.WOMAN.FAMILY.MAN+WOMAN HOLDING HANDS.TWO MEN HOLDING HANDSrWOMEN H",
  "OLDING HANDS.POLICE OFFICER.WOMAN%BUNNY EARS.BRIDE%VEIL.PERSON%BLOND HAIR.MAN%GUA PI MAOkTURBA",
  "N.OLDER MANdWOMAN.BABY.CONSTRUCTION WORKER.PRINCESS.JAPANESE OGREeGOBLIN.GHOST.BABY ANGEL.EXTR",
  "ATERRESTRIAL ALIEN.ALIEN MONSTER.IMP.SKULL.INFORMATION DESK PERSON.GUARDSMAN.DANCER.LIPSTICK.N",
  "AIL POLISH.FACE MASSAGE.HAIRCUT.BARBER POLE.SYRINGE.PILL.KISS|.LOVE LETTER.RING.GEM STONE.KISS",
  ".BOUQUET.COUPLE%HEART.WEDDING.BEATING HEARTmROKEN HEART.TWO HEARTS.SPARKLING HEART.GROWING HEA",
  "RT.HEART WITH:.BLUE HEART.GREEN HEART.YELLOW HEART.PURPLE HEART.HEART%RIBBON.REVOLVING HEARTS.",
  "HEART DECORATION.DIAMOND SHAPE%A DOT INSIDE.ELECTRIC LIGHT BULB.ANGER_.BOMB.SLEEPING_.COLLISIO",
  "N_.SPLASHING SWEAT_.DROPLETgASH_.PILE OF POO.FLEXED BICEPS.DIZZY_.SPEECH BALLOON.THOUGHT BALLO",
  "ON.WHITE FLOWER.HUNDRED POINTS_.MONEY BAG.CURRENCY EXCHANGE.HEAVY DOLLAR;.CREDIT CARD.BANKNOTE",
  "%YEN;iDOLLAR;lEURO;jPOUND;.MONEY%WINGS.CHART%UPWARDS TREND+YEN;.SEAT.PERSONAL COMPUTER.BRIEFCA",
  "SE.MINIDISC.FLOPPY DISK.OPTICAL DISC.DVD.FILE FOLDER.OPEN FILE FOLDER.PAGE%CURLjFACING UP.CALE",
  "NDAR.TEAR-OFF CALENDAR.CARD INDEXjHART%UPWARDS TRENDnDOWNWARDS TREND.BAR CHART.CLIPBOARD.PUSHP",
  "IN.ROUND PUSHPIN.PAPERCLIP.STRAIGHT RULER.TRIANGULAR RULER.BOOKMARK TABS.LEDGER.NOTEBOOKa%DECO",
  "RATIVE COVER.CLOSED BOOK.OPEN BOOK.GREEN BOOK.BLUE BOOK.ORANGE BOOK.BOOKS.NAME BADGE.SCROLL.ME",
  "MO.TELEPHONE RECEIVER.PAGER.FAX MACHINE.SATELLITE ANTENNA.PUBLIC ADDRESS LOUDSPEAKER.CHEERIN",
  "G MEGAPHONE.OUTBOX TRAY.INBOX TRAY.PACKAGE.E-MAIL_.INCOMING ENVELOPE.ENVELOPE%DOWNWARDS:<.CLOS",
  "ED MAILBOX%LOWERED FLAGmRAISED FLAG.OPEN MAILBOX%RAISED FLAGlLOWERED FLAG.POSTBOXdAL HORN.NEWS",
  "PAPER.MOBILE PHONEa%*WARDS: AT >.VIBRATION MODE.MOBILE PHONE OFF.NO MOBILE PHONES.ANTENNA%BARS",
  ".CAMERAa%FLASH.VIDEO CAMERA.TELEVISION.RADIO.VIDEOCASSETTE.FILM PROJECTOR.PORTABLE STEREOoRAYE",
  "R BEADS.TWISTED *WARDS:S.CLOCKWISE *WARDS+>WARDS OPEN CIRCLE:Sa%CIRCLED ONE OVERLAY.CLOCKWIS",
  "E DOWNWARDS+UPWARDS OPEN CIRCLE:S.ANTICLOCKWISE DOWNWARDS+UPWARDS OPEN CIRCLE:S.LOW B*NESS_.HI",
  "GH B*NESS_.SPEAKER%CANCELLATION STROKEza%ONE SOUND WAVEoTHREE SOUND WAVES.BATTERY.ELECTRIC PLU",
  "G.>-POINTING MAGNIFYING GLASS.*-POINTING MAGNIFYING GLASS.LOCK%INK PEN.CLOSED LOCK%KEY.KEY.LOC",
  "K.OPEN LOCK.BELLa%CANCELLATION STROKE.BOOKMARK.LINK_.RADIO BUTTON.BACK%>WARDS:<.END%>WARDS:<.O",
  "N%EXCLAMATION|%> *:<.SOON%*WARDS:<.TOP%UPWARDS:<.NO ONE UNDER EIGHTEEN_.KEYCAP TEN.INPUT_ FO",
  "R LATIN CAPITAL LETTERSpSMALL LETTERStNUMBERShSYMBOLShLATIN LETTERS.FIRE.ELECTRIC TORCH.WRENCH",
  ".HAMMER.NUT+BOLT.HOCHO.PISTOL.MICROSCOPE.TELESCOPE.CRYSTAL BALL.SIX POINTED STAR%MIDDLE DOT.JA",
  "PANESE_ FOR BEGINNER.TRIDENT EMBLEM.~ SQUARE BUTTON.WHITE SQUARE BUTTON.LARGE RED CIRCLEkBLU",
  "E CIRCLElORANGE DIAMONDoBLUE DIAMOND.SMALL ORANGE DIAMONDoBLUE DIAMOND.UP-POINTING RED^.DOWN-P",
  "OINTING RED^.UP-POINTING SMALL RED^.DOWN-POINTING SMALL RED^.LOWER * SHADOWED WHITE CIRCLE.UPP",
  "ER * SHADOWED WHITE CIRCLE.CIRCLED CROSS POMMEEtROSS POMMEE%HALF-CIRCLE=x.NOTCHED > SEMICIRCLE",
  "%THREE DOTS.NOTCHED * SEMICIRCLE%THREE DOTS.SYMBOL FOR|S CHAPTER.WHITE LATIN CROSS.HEAVY LATI",
  "N CROSS.CELTIC CROSS.OM_.DOVE OF PEACE.KAABA.MOSQUE.SYNAGOGUE.MENORAH%NINE BRANCHES.BOWL OF HY",
  "GIEIA.CLOCK FACE ONE OCLOCKkTWO OCLOCKjHREE OCLOCKmFOUR OCLOCKkIVE OCLOCKlSIX OCLOCKjEVEN OCLO",
  "CKmEIGHT OCLOCKmNINE OCLOCKlTEN OCLOCKkELEVEN OCLOCKnTWELVE OCLOCKnONE-THIRTYkTWO-THIRTYjHREE-",
  "THIRTYmFOUR-THIRTYkIVE-THIRTYlSIX-THIRTYjEVEN-THIRTYmEIGHT-THIRTYmNINE-THIRTYlTEN-THIRTYkELEVE",
  "N-THIRTYnTWELVE-THIRTY.* SPEAKERa%ONE SOUND WAVEoTHREE SOUND WAVES.BULLHORNa%SOUND WAVES.RINGI",
  "NG BELL.BOOK.CANDLE.MANTELPIECE CLOCK.~ SKULL+CROSSBONES.NO PIRACY.HOLE.MAN IN BUSINESS SUIT L",
  "EVITATING.SLEUTH OR SPY.DARK SUNGLASSES.SPIDERa WEB.JOYSTICK.MAN DANCING.> HAND TELEPHONE RECE",
  "IVER.TELEPHONE RECEIVER%PAGE.* HAND TELEPHONE RECEIVER.WHITE TOUCHTONE TELEPHONE.~ TOUCHTONE T",
  "ELEPHONE.TELEPHONE ON TOP OF MODEM.CLAMSHELL MOBILE PHONE.BACK OF ENVELOPE.STAMPED ENVELOPE.EN",
  "VELOPE%LIGHTNING.FLYING ENVELOPE.PEN OVER STAMPED ENVELOPE.LINKED PAPERCLIPS.~ PUSHPIN.LOWE",
  "R > PENCILgBALLPOINT PENnFOUNTAIN PENmPAINTBRUSHkCRAYON.> WRITING HAND.TURNED OK HAND;.RAISE",
  "D HAND%FINGERS SPLAYED.REVERSED RAISED HAND%FINGERS SPLAYED.REVERSED THUMBS UP;hDOWN;qVICTOR",
  "Y HANDmHAND%MIDDLE FINGER EXTENDED.RAISED HAND%PART BETWEEN MIDDLE+RING FINGERS.WHITE DOWN POI",
  "NTING > HAND INDEX.SIDEWAYS WHITE > POINTING INDEXt* POINTING INDEX.SIDEWAYS ~ > POINTING INDE",
  "Xt* POINTING INDEX.~ > POINTING BACKHAND INDEX.~ * POINTING BACKHAND INDEX.SIDEWAYS WHITE UP P",
  "OINTING INDEXrDOWN POINTING INDEXz~ UP POINTING INDEXrDOWN POINTING INDEX.~ UP POINTING BACKHA",
  "ND INDEX.~ DOWN POINTING BACKHAND INDEX.~ HEART.DESKTOP COMPUTER.KEYBOARD+MOUSE.THREE NETWORKE",
  "D COMPUTERS.PRINTERgOCKET CALCULATOR.~ HARD SHELL FLOPPY DISK.WHITE HARD SHELL FLOPPY DISK.SOF",
  "T SHELL FLOPPY DISK.TAPE CARTRIDGE.WIRED KEYBOARD.ONE BUTTON MOUSE.TWO BUTTON MOUSEpHREE BUTTO",
  "N MOUSErRACKBALL.OLD PERSONAL COMPUTER.HARD DISK.SCREEN.PRINTER ICON.FAX ICON.OPTICAL DISC ICO",
  "N.DOCUMENT%TEXTa+PICTUREqPICTURE.FRAME%PICTUREhTILESfAN X.~ FOLDER.FOLDER.OPEN FOLDER.CARD IND",
  "EX DIVIDERSoFILE BOX.FILE CABINET.EMPTY NOTEa PAGEcD.NOTEa PAGEcD.EMPTY DOCUMENTiPAGEaS.DOCUME",
  "NT.PAGEaS.WASTEBASKET.SPIRAL NOTE PADiCALENDAR PAD.DESKTOP WINDOW.MINIMIZEhAXIMIZE.OVERLAP.CLO",
  "CKWISE *+> SEMICIRCLE:S.CANCELLATION X.INCREASE FONT SIZE_.DECREASE FONT SIZE_.COMPRESSION.OL",
  "D KEY.ROLLED-UP NEWSPAPER.PAGE%CIRCLED TEXT.STOCK CHART.DAGGER KNIFE.LIPS.SPEAKING HEAD IN SIL",
  "HOUETTE.THREE RAYS<fBELOWf>e*.> SPEECH BUBBLE.* SPEECH BUBBLE.TWO SPEECH BUBBLESrHREE SPEECH B",
  "UBBLES.> THOUGHT BUBBLE.* THOUGHT BUBBLE.> ANGER BUBBLE.* ANGER BUBBLE.MOOD BUBBLE.LIGHTNING M",
  "OOD BUBBLEh.BALLOT BOX%BALLOTpSCRIPT XiBOX%SCRIPT XpLD SCRIPT XlX%BOLD SCRIPT X.LIGHT CHECK|.B",
  "ALLOT BOX%BOLD CHECK.WORLD MAP.MOUNT FUJI.TOKYO TOWER.STATUE OF LIBERTYqILHOUETTE OF JAPAN.MOY",
  "AI.GRINNING FACEa%SMILING EYES.FACE%TEARS OF JOY.SMILING FACE%OPEN MOUTHa+SMILING EYESmCOLD SW",
  "EATkTIGHTLY-CLOSED EYES.SMILING FACE%HALOdORNS.WINKING FACE.SMILING FACE%SMILING EYES.FACE SAV",
  "OURING DELICIOUS FOOD.RELIEVED FACE.SMILING FACE%HEART-SHAPED EYESrSUNGLASSESzRKING FACE.NEUTR",
  "AL FACE.EXPRESSIONLESS FACE.UNAMUSED FACE.FACE%COLD SWEAT.PENSIVE FACE.CONFUSED FACEjOUNDED FA",
  "CE.KISSING FACE.FACE THROWING A KISS.KISSING FACE%SMILING EYESmCLOSED EYES.FACE%STUCK-OUT TONG",
  "UEa+WINKING EYElTIGHTLY-CLOSED EYES.DISAPPOINTED FACE.WORRIED FACE.ANGRY FACE.POUTING FACE.CRY",
  "ING FACE.PERSEVERING FACE.FACE%LOOK OF TRIUMPH.DISAPPOINTED BUT RELIEVED FACE.FROWNING FACE%OP",
  "EN MOUTH.ANGUISHED FACE.FEARFUL FACE.WEARY FACE.SLEEPY FACE.TIRED FACE.GRIMACING FACE.LOUDLY C",
  "RYING FACE.FACE%OPEN MOUTH.HUSHED FACE.FACE%OPEN MOUTH+COLD SWEAT.FACE SCREAMING IN FEAR.ASTON",
  "ISHED FACE.FLUSHED FACE.SLEEPING FACE.DIZZY FACE.FACE WITHOUT MOUTHj MEDICAL MASK.GRINNING CA",
  "T FACE%SMILING EYES.CAT FACE%TEARS OF JOY.SMILING CAT FACE%OPEN MOUTHkHEART-SHAPED EYES.CAT FA",
  "CE%WRY SMILE.KISSING CAT FACE%CLOSED EYES.POUTING CAT FACE.CRYING CAT FACE.WEARY CAT FACE.SLIG",
  "HTLY FROWNING FACEnSMILING FACE.UPSIDE-DOWN FACE.FACE%ROLLING EYESmNO GOOD GESTUREpOK GESTURE.",
  "PERSON BOWING DEEPLY.SEE-NO-EVIL MONKEY.HEAR-NO-EVIL MONKEY.SPEAK-NO-EVIL MONKEY.HAPPY PERSO",
  "N RAISING ONE HAND.PERSON RAISING BOTH HANDS IN CELEBRATION.PERSON FROWNINGiWITH POUTING FACEm",
  "FOLDED HANDS.NORTH WEST POINTING LEAF.SOUTH WEST POINTING LEAF.NORTH EAST POINTING LEAF.SOUT",
  "H EAST POINTING LEAF.TURNED NORTH WEST POINTING LEAFySOUTH WEST POINTING LEAFyNORTH EAST POINT",
  "ING LEAFySOUTH EAST POINTING LEAF.NORTH WEST POINTING VINE LEAF.SOUTH WEST POINTING VINE LEAF.",
  "NORTH EAST POINTING VINE LEAF.SOUTH EAST POINTING VINE LEAF.HEAVY NORTH WEST POINTING VINE LEA",
  "F.HEAVY SOUTH WEST POINTING VINE LEAF.HEAVY NORTH EAST POINTING VINE LEAF.HEAVY SOUTH EAST POI",
  "NTING VINE LEAF.NORTH WEST POINTING BUD.SOUTH WEST POINTING BUD.NORTH EAST POINTING BUD.SOUT",
  "H EAST POINTING BUD.HEAVY NORTH WEST POINTING BUDxSOUTH WEST POINTING BUDxNORTH EAST POINTIN",
  "G BUDxSOUTH EAST POINTING BUD.HOLLOW QUILT SQUARE ORNAMENTa IN ~ SQUARE.SOLID QUILT SQUARE ORN",
  "AMENTa IN ~ SQUARE.>WARDS ROCKET.UPWARDS ROCKET.*WARDS ROCKET.DOWNWARDS ROCKET.SCRIPT LIGATUR",
  "E ET ORNAMENT.HEAVY SCRIPT LIGATURE ET ORNAMENT.LIGATURE OPEN ET ORNAMENT.HEAVY LIGATURE OPE",
  "N ET ORNAMENTzAMPERSAND ORNAMENT.SWASH AMPERSAND ORNAMENTxANS-SERIF HEAVY @ TURNED COMMA QUOTA",
  "TION| ORNAMENT.SANS-SERIF HEAVY @ COMMA QUOTATION| ORNAMENT.SANS-SERIF HEAVY LOW @ COMMA QUOTA",
  "TION| ORNAMENT.HEAVY INTERROBANG ORNAMENT.SANS-SERIF INTERROBANG ORNAMENT.HEAVY SANS-SERIF INT",
  "ERROBANG ORNAMENT.VERY HEAVY SOLIDUShREVERSE SOLIDUS.CHECKER BOARD.REVERSE CHECKER BOARDuOCKET",
  ".HELICOPTER.STEAM LOCOMOTIVE.RAILWAY CAR.HIGH-SPEED TRAINa%BULLET NOSE.TRAIN.METRO.LIGHT RAIL.",
  "STATION.TRAMa CAR.BUS.ONCOMING BUS.TROLLEYBUS.BUS STOP.MINIBUS.AMBULANCE.FIRE ENGINE.POLICE CA",
  "R.ONCOMING POLICE CAR.TAXI.ONCOMING TAXI.AUTOMOBILE.ONCOMING AUTOMOBILE.RECREATIONAL VEHICLE.D",
  "ELIVERY TRUCK.ARTICULATED LORRY.TRACTOR.MONORAILgUNTAIN RAILWAY.SUSPENSION RAILWAY.MOUNTAIN CA",
  "BLEWAY.AERIAL TRAMWAY.SHIP.ROWBOAT.SPEEDBOAT.HORIZONTAL TRAFFIC LIGHT.,TRAFFIC LIGHT.CONSTRUCT",
  "ION;.POLICE CARS REVOLVING LIGHT.TRIANGULAR FLAG ON POST.DOOR.NO ENTRY;.SMOKING_.NO SMOKING_.P",
  "UT LITTER IN ITS PLACE_.DO NOT LITTER_.POTABLE WATER_.NON-POTABLE WATER_.BICYCLE.NO BICYCLES.B",
  "ICYCLIST.MOUNTAIN BICYCLIST.PEDESTRIAN.NO PEDESTRIANS.CHILDREN CROSSING.MENS_.WOMENS_.RESTROOM",
  ".BABY_.TOILET.WATER CLOSET.SHOWER.BATHaTUB.PASSPORT CONTROL.CUSTOMS.BAGGAGE CLAIM.> LUGGAGE.TR",
  "IANGLE%ROUNDED CORNERS.PROHIBITED;.CIRCLED INFORMATION SOURCE.BOYS_.GIRLS_.COUCH+LAMP.SLEEPIN",
  "G ACCOMMODATIONvHOPPING BAGS.BELLHOP BELLkD.PLACE OF WORSHIP.OCTAGONAL;.SHOPPING TROLLEYpTUPA.",
  "PAGODA.HINDU TEMPLElUT.ELEVATOR(1F6DD).PLAYGROUND SLIDE.WHEEL.RING BUOY.HAMMER+WRENCH.SHIELD.O",
  "IL DRUM.MOTORWAY.RAILWAY TRACK.MOTOR BOAT.UP-POINTING MILITARY AIRPLANErAIRPLANEiSMALL AIRPLAN",
  "E.SMALL AIRPLANE.NORTHEAST-POINTING AIRPLANE.AIRPLANE DEPARTUREjARRIVING(1F6F0).SATELLITE.ONCO",
  "MING FIRE ENGINE.DIESEL LOCOMOTIVE.PASSENGER SHIP.SCOOTER.MOTOR SCOOTER.CANOE.SLED.FLYING SAUC",
  "ER.SKATEBOARD.AUTO RICKSHAW.PICKUP TRUCK.ROLLER SKATE(1F700).ALCHEMICAL_ FOR QUINTESSENCEmAIRd",
  "FIREeEARTHfWATERfAQUAFORTISg REGIAa-2hVITAEa-2mVINEGARa-2b3jSULFURgPHILOSOPHERS SULFURt~ SULFU",
  "RmMERCURY SUBLIMATEa-2b3tCINNABARiSALTeNITREfVITRIOLa-2jROCK SALTa-2lGOLDeSILVERgIRON OREa-2kC",
  "ROCUS OF IRONoREGULUS OF IRONpCOPPER OREkIRON-COPPER OREpSUBLIMATE OF COPPERtCROCUS OF COPPERa",
  "-2rOPPER ANTIMONIATEsSALT OF COPPER ANTIMONIATEzUBLIMATE OF SALT OF COPPER.ALCHEMICAL_ FOR VER",
  "DIGRISjTIN OREhLEAD OREiANTIMONY OREmSUBLIMATE OF ANTIMONYuALT OF ANTIMONYpUBLIMATE OF SALT O",
  "F ANTIMONY.ALCHEMICAL_ FOR VINEGAR OF ANTIMONYtREGULUS OF ANTIMONYa-2oa-2b3b4jALKALIa-2iMARCAS",
  "ITEjSAL-AMMONIACmARSENIChREALGARa-2jAURIPIGMENTlBISMUTH ORElTARTARa-2iQUICK LIMEkBORAXa-2b3hAL",
  "UMeOILdSPIRITgTINCTUREiGUMdWAXdPOWDERgCALXeTUTTYfCAPUT MORTUUMnSCEPTER OF JOVEpCADUCEUSiTRIDEN",
  "ThSTARRED TRIDENTpLODESTONEjSOAPeURINEfHORSE DUNGkASHESfPOT ASHESjBRICKfPOWDERED BRICKoAMALGAM",
  "hSTRATUM SUPER STRATUMa-2wUBLIMATIONlPRECIPITATElDISTILLeSOLVEa-2kPURIFYeTREFACTIONmCRUCIBLEa-",
  "2b3b4b5kALEMBIChBATH OF MARYeVAPOURSpRETORTgHOUReNIGHTfDAY-NIGHTjMONTHfHALF DRAMeOUNCE(1F780).",
  "~ >-POINTING ISOSCELES *^.~ UP-POINTING ISOSCELES *^.~ *-POINTING ISOSCELES *^.~ DOWN-POINTIN",
  "G ISOSCELES *^.~ SLIGHTLY SMALL CIRCLE.MEDIUM BOLD WHITE CIRCLE.BOLD WHITE CIRCLE.HEAVY WHIT",
  "E CIRCLE.VERY HEAVY WHITE CIRCLE.EXTREMELY HEAVY WHITE CIRCLE.WHITE CIRCLE CONTAINING ~ SMAL",
  "L CIRCLE.ROUND TARGET.~ TINY SQUARElSLIGHTLY SMALL SQUARE.LIGHT WHITE SQUARE.MEDIUM WHITE SQUA",
  "RE.BOLD WHITE SQUARE.HEAVY WHITE SQUARE.VERY HEAVY WHITE SQUARE.EXTREMELY HEAVY WHITE SQUARE.W",
  "HITE SQUARE CONTAINING ~ VERY SMALL SQUARErMEDIUM SQUARE.SQUARE TARGET.~ TINY DIAMONDmVERY SMA",
  "LL DIAMONDsMEDIUM SMALL DIAMOND.WHITE DIAMOND CONTAINING ~ VERY SMALL DIAMONDsMEDIUM DIAMOND.D",
  "IAMOND TARGET.~ TINY LOZENGEmVERY SMALL LOZENGEsMEDIUM SMALL LOZENGE.WHITE LOZENGE CONTAININ",
  "G ~ SMALL LOZENGE.THIN GREEK CROSS.LIGHT GREEK CROSS.MEDIUM GREEK CROSS.BOLD GREEK CROSS.VER",
  "Y BOLD GREEK CROSSqHEAVY GREEK CROSS.EXTREMELY HEAVY GREEK CROSS.THIN SALTIRE.LIGHT SALTIRE.ME",
  "DIUM SALTIRE.BOLD SALTIRE.HEAVY SALTIRE.VERY HEAVY SALTIRE.EXTREMELY HEAVY SALTIRE.LIGHT FIV",
  "E SPOKED ASTERISK.MEDIUM FIVE SPOKED ASTERISK.BOLD FIVE SPOKED ASTERISK.HEAVY FIVE SPOKED ASTE",
  "RISK.VERY HEAVY FIVE SPOKED ASTERISK.EXTREMELY HEAVY FIVE SPOKED ASTERISK.LIGHT SIX SPOKED AST",
  "ERISK.MEDIUM SIX SPOKED ASTERISK.BOLD SIX SPOKED ASTERISK.HEAVY SIX SPOKED ASTERISK.VERY HEAV",
  "Y SIX SPOKED ASTERISK.EXTREMELY HEAVY SIX SPOKED ASTERISK.LIGHT EIGHT SPOKED ASTERISK.MEDIUM E",
  "IGHT SPOKED ASTERISK.BOLD EIGHT SPOKED ASTERISK.HEAVY EIGHT SPOKED ASTERISK.VERY HEAVY EIGHT S",
  "POKED ASTERISK.LIGHT THREE POINTED ~ STAR.MEDIUM THREE POINTED ~ STAR.THREE POINTED ~ STAR.MED",
  "IUM THREE POINTED PINWHEEL STAR.LIGHT FOUR POINTED ~ STAR.MEDIUM FOUR POINTED ~ STAR.FOUR POIN",
  "TED ~ STAR.MEDIUM FOUR POINTED PINWHEEL STAR.REVERSE LIGHT FOUR POINTED PINWHEEL STAR.LIGHT FI",
  "VE POINTED ~ STAR.HEAVY FIVE POINTED ~ STAR.MEDIUM SIX POINTED ~ STAR.HEAVY SIX POINTED ~ STAR",
  ".SIX POINTED PINWHEEL STAR.MEDIUM EIGHT POINTED ~ STAR.HEAVY EIGHT POINTED ~ STAR.VERY HEAVY E",
  "IGHT POINTED ~ STAR.HEAVY EIGHT POINTED PINWHEEL STAR.LIGHT TWELVE POINTED ~ STAR.HEAVY TWELV",
  "E POINTED ~ STARkPINWHEEL STAR.CIRCLED^.NEGATIVE CIRCLED^.CIRCLED SQUARE.NEGATIVE CIRCLED SQUA",
  "RE(1F7E0).LARGE ORANGE CIRCLEnYELLOW CIRCLEnGREEN CIRCLEmPURPLE CIRCLEnBROWN CIRCLEmRED SQUARE",
  "kBLUE SQUARElORANGE SQUAREnYELLOW SQUAREnGREEN SQUAREmPURPLE SQUAREnBROWN SQUARE(1F7F0).HEAV",
  "Y EQUALS;(1F800).>WARDS:%SMALL^:HEAD.UPWARDS:%SMALL^:HEAD.*WARDS:%SMALL^:HEAD.DOWNWARDS:%SMALL",
  "^:HEAD.>WARDS:%MEDIUM^:HEAD.UPWARDS:%MEDIUM^:HEAD.*WARDS:%MEDIUM^:HEAD.DOWNWARDS:%MEDIUM^:HEAD",
  ".>WARDS:%LARGE^:HEAD.UPWARDS:%LARGE^:HEAD.*WARDS:%LARGE^:HEAD.DOWNWARDS:%LARGE^:HEAD(1F810).>W",
  "ARDS:%SMALL EQUILATERAL:HEAD.UPWARDS:%SMALL EQUILATERAL:HEAD.*WARDS:%SMALL EQUILATERAL:HEAD.DO",
  "WNWARDS:%SMALL EQUILATERAL:HEAD.>WARDS:%EQUILATERAL:HEAD.UPWARDS:%EQUILATERAL:HEAD.*WARDS:%EQU",
  "ILATERAL:HEAD.DOWNWARDS:%EQUILATERAL:HEAD.HEAVY >WARDS:%EQUILATERAL:HEAD.HEAVY UPWARDS:%EQUILA",
  "TERAL:HEAD.HEAVY *WARDS:%EQUILATERAL:HEAD.HEAVY DOWNWARDS:%EQUILATERAL:HEAD.HEAVY >WARDS:%LARG",
  "E EQUILATERAL:HEAD.HEAVY UPWARDS:%LARGE EQUILATERAL:HEAD.HEAVY *WARDS:%LARGE EQUILATERAL:HEAD.",
  "HEAVY DOWNWARDS:%LARGE EQUILATERAL:HEAD.>WARDS^-HEADED:%NARROW SHAFT.UPWARDS^-HEADED:%NARROW S",
  "HAFT.*WARDS^-HEADED:%NARROW SHAFT.DOWNWARDS^-HEADED:%NARROW SHAFT.>WARDS^-HEADED:%MEDIUM SHAFT",
  ".UPWARDS^-HEADED:%MEDIUM SHAFT.*WARDS^-HEADED:%MEDIUM SHAFT.DOWNWARDS^-HEADED:%MEDIUM SHAFT.>W",
  "ARDS^-HEADED:%BOLD SHAFT.UPWARDS^-HEADED:%BOLD SHAFT.*WARDS^-HEADED:%BOLD SHAFT.DOWNWARDS^-HEA",
  "DED:%BOLD SHAFT.>WARDS^-HEADED:%HEAVY SHAFT.UPWARDS^-HEADED:%HEAVY SHAFT.*WARDS^-HEADED:%HEAV",
  "Y SHAFT.DOWNWARDS^-HEADED:%HEAVY SHAFT.>WARDS^-HEADED:%VERY HEAVY SHAFT.UPWARDS^-HEADED:%VER",
  "Y HEAVY SHAFT.*WARDS^-HEADED:%VERY HEAVY SHAFT.DOWNWARDS^-HEADED:%VERY HEAVY SHAFT.>WARDS FING",
  "ER-POST:.UPWARDS FINGER-POST:.*WARDS FINGER-POST:.DOWNWARDS FINGER-POST:.>WARDS SQUARED:.UPWAR",
  "DS SQUARED:.*WARDS SQUARED:.DOWNWARDS SQUARED:.>WARDS COMPRESSED:.UPWARDS COMPRESSED:.*WARDS C",
  "OMPRESSED:.DOWNWARDS COMPRESSED:.>WARDS HEAVY COMPRESSED:.UPWARDS HEAVY COMPRESSED:.*WARDS HEA",
  "VY COMPRESSED:.DOWNWARDS HEAVY COMPRESSED:.>WARDS HEAVY:.UPWARDS HEAVY:.*WARDS HEAVY:.DOWNWARD",
  "S HEAVY:(1F850).>WARDS SANS-SERIF:.UPWARDS SANS-SERIF:.*WARDS SANS-SERIF:.DOWNWARDS SANS-SERIF",
  ":.NORTH WEST SANS-SERIF:vEAST SANS-SERIF:.SOUTH EAST SANS-SERIF:vWEST SANS-SERIF:.> * SANS-SER",
  "IF:.UP DOWN SANS-SERIF:(1F860).WIDE-HEADED >WARDS LIGHT BARB:.WIDE-HEADED UPWARDS LIGHT BARB:y",
  "*WARDS LIGHT BARB:.WIDE-HEADED DOWNWARDS LIGHT BARB:.WIDE-HEADED NORTH WEST LIGHT BARB:vEAST L",
  "IGHT BARB:.WIDE-HEADED SOUTH EAST LIGHT BARB:vWEST LIGHT BARB:.WIDE-HEADED >WARDS BARB:uUPWARD",
  "S BARB:s*WARDS BARB:vDOWNWARDS BARB:uNORTH WEST BARB:pEAST BARB:vSOUTH EAST BARB:pWEST BARB:v>",
  "WARDS MEDIUM BARB:.WIDE-HEADED UPWARDS MEDIUM BARB:z*WARDS MEDIUM BARB:.WIDE-HEADED DOWNWARD",
  "S MEDIUM BARB:.WIDE-HEADED NORTH WEST MEDIUM BARB:wEAST MEDIUM BARB:.WIDE-HEADED SOUTH EAST ME",
  "DIUM BARB:wWEST MEDIUM BARB:.WIDE-HEADED >WARDS HEAVY BARB:.WIDE-HEADED UPWARDS HEAVY BARB:y*W",
  "ARDS HEAVY BARB:.WIDE-HEADED DOWNWARDS HEAVY BARB:.WIDE-HEADED NORTH WEST HEAVY BARB:vEAST HEA",
  "VY BARB:.WIDE-HEADED SOUTH EAST HEAVY BARB:vWEST HEAVY BARB:.WIDE-HEADED >WARDS VERY HEAVY BAR",
  "B:.WIDE-HEADED UPWARDS VERY HEAVY BARB:.WIDE-HEADED *WARDS VERY HEAVY BARB:.WIDE-HEADED DOWNWA",
  "RDS VERY HEAVY BARB:.WIDE-HEADED NORTH WEST VERY HEAVY BARB:.WIDE-HEADED NORTH EAST VERY HEAV",
  "Y BARB:.WIDE-HEADED SOUTH EAST VERY HEAVY BARB:.WIDE-HEADED SOUTH WEST VERY HEAVY BARB:(1F890)",
  ".>WARDS^:HEAD.UPWARDS^:HEAD.*WARDS^:HEAD.DOWNWARDS^:HEAD.>WARDS WHITE: WITHIN^:HEAD.UPWARDS WH",
  "ITE: WITHIN^:HEAD.*WARDS WHITE: WITHIN^:HEAD.DOWNWARDS WHITE: WITHIN^:HEAD.>WARDS:%NOTCHED TAI",
  "L.UPWARDS:%NOTCHED TAIL.*WARDS:%NOTCHED TAIL.DOWNWARDS:%NOTCHED TAIL.HEAVY: SHAFT WIDTH ONEdTW",
  "O THIRDSkONE HALFeTHIRD.>WARDS BOTTOM-SHADED WHITE:.*WARDS BOTTOM SHADED WHITE:.>WARDS TOP SHA",
  "DED WHITE:.*WARDS TOP SHADED WHITE:.>WARDS >-SHADED WHITE:.*WARDS *-SHADED WHITE:.>WARDS *-SHA",
  "DED WHITE:.*WARDS >-SHADED WHITE:.>WARDS BACK-TILTED SHADOWED WHITE:.*WARDS BACK-TILTED SHADOW",
  "ED WHITE:.>WARDS FRONT-TILTED SHADOWED WHITE:.*WARDS FRONT-TILTED SHADOWED WHITE:.WHITE: SHAF",
  "T WIDTH ONEdTWO THIRDS(1F8B0).ARROW POINTING UPWARDS THEN NORTH WESTx*WARDS THEN CURVING SOUT",
  "H WEST(1F900).CIRCLED CROSS&EE%FOUR DOTSjTWO DOTSo.> HALF CIRCLE%FOUR DOTSjTHREE DOTSjWO DOTSi",
  "DOTj.DOWNWARD FACING HOOKeNOTCHED HOOKmHOOK%DOTnNOTCHED HOOK%DOT.PINCHED FINGERS.WHITE HEART.B",
  "ROWN HEART.PINCHING HAND.ZIPPER-MOUTH FACE.MONEY-MOUTH FACE.FACE%THERMOMETER.NERD FACE.THINKIN",
  "G FACE.FACE%HEAD-BANDAGE.ROBOT FACE.HUGGING FACE.SIGN OF THE HORNS.CALL ME HAND.RAISED BACK O",
  "F HAND.>-FACING FIST.*-FACING FIST.HANDSHAKEf%INDEX+MIDDLE FINGERS CROSSED.I LOVE YOU HAND;.FA",
  "CE%COWBOY HAT.CLOWN FACE.NAUSEATED FACE.ROLLING ON THE FLOOR LAUGHING.DROOLING FACE.LYING FACE",
  ".FACE PALM.SNEEZING FACE.FACE%ONE EYEBROW RAISED.GRINNING FACE%STAR EYESjONE LARGE+ONE SMALL E",
  "YE.FACE%FINGER COVERING CLOSED LIPS.SERIOUS FACE WITH_S COVERING MOUTH.SMILING FACE%SMILING EY",
  "ES+HAND COVERING MOUTH.FACE%OPEN MOUTH VOMITING.SHOCKED FACE%EXPLODING HEAD.PREGNANT WOMAN.BRE",
  "AST-FEEDING.PALMS UP TOGETHER.SELFIE.PRINCE.MAN IN TUXEDOmOTHER CHRISTMAS.SHRUG.PERSON DOING C",
  "ARTWHEEL.JUGGLING.FENCER.MODERN PENTATHLON.WRESTLERSiATER POLO.HANDBALL.DIVING MASK.WILTED FLO",
  "WER.DRUM%DRUMSTICKS.CLINKING GLASSES.TUMBLER GLASS.SPOON.GOAL NET.RIFLE.FIRST PLACE MEDAL.SECO",
  "ND PLACE MEDAL.THIRD PLACE MEDAL.BOXING GLOVE.MARTIAL ARTS UNIFORM.CURLING STONE.LACROSSE STIC",
  "K+BALL.SOFTBALL.FLYING DISC.CROISSANT.AVOCADO.CUCUMBER.BACON.POTATO.CARROT.BAGUETTE BREAD.GREE",
  "N SALAD.SHALLOW PAN OF FOODsTUFFED FLATBREAD.EGG.GLASS OF MILK.PEANUTS.KIWIFRUIT.PANCAKES.DUMP",
  "LING.FORTUNE COOKIE.TAKEOUT BOX.CHOPSTICKS.BOWL%SPOON.CUP%STRAWnOCONUT.BROCCOLI.PIEcRETZEL.CU",
  "T OF MEAT.SANDWICH.CANNED FOOD.LEAFY GREEN.MANGOeOON CAKE.BAGEL.SMILING FACE%SMILING EYES+THRE",
  "E HEARTS.YAWNING FACE.SMILING FACE%TEAR.FACE%PARTY HORN+PARTY HATyUNEVEN EYES+WAVY MOUTH.OVERH",
  "EATED FACE.FREEZING FACE.NINJA.DISGUISED FACE.FACE HOLDING BACK TEARS.FACE%PLEADING EYES.SARI.",
  "LAB COAT.GOGGLES.HIKING BOOT.FLAT SHOE.CRAB.LION FACE.SCORPION.TURKEY.UNICORN FACE.EAGLE.DUCK.",
  "BAT.SHARK.OWL.FOX FACE.BUTTERFLY.DEER.GORILLA.LIZARD.RHINOCEROS.SHRIMPfQUID.GIRAFFE FACE.ZEBR",
  "A FACE.HEDGEHOG.SAUROPOD.T-REX.CRICKET.KANGAROO.LLAMA.PEACOCK.HIPPOPOTAMUS.PARROT.RACCOON.LOBS",
  "TER.MOSQUITOhICROBE.BADGER.SWAN.MAMMOTH.DODO.SLOTH.OTTEReRANGUTAN.SKUNK.FLAMINGO.OYSTER.BEAVER",
  "fISON.SEAL.GUIDE DOG.PROBING CANE.EMOJI COMPONENT RED HAIRiCURLY HAIRkBALDeWHITE HAIR.BONE.LEG",
  ".FOOT.TOOTH.SUPERHEROeVILLAINlAFETY VEST.EAR%HEARING AID.MOTORIZED WHEELCHAIRtANUAL WHEELCHAIR",
  "qECHANICAL ARMdLEG.CHEESE WEDGElUPCAKE.SALT SHAKER.BEVERAGE BOX.GARLIC.ONION.FALAFEL.WAFFLE.BU",
  "TTER.MATE DRINK.ICE CUBE.BUBBLE TEA.TROLL.STANDING PERSON.KNEELING PERSON.DEAF PERSON.FACE%MON",
  "OCLE.ADULT.CHILD.OLDER ADULT.BEARDED PERSON.PERSON%HEADSCARFoIN STEAMY ROOMoCLIMBINGiIN LOTU",
  "S POSITION.MAGE.FAIRY.VAMPIRE.MERPERSON.ELF.GENIE.ZOMBIE.BRAIN.ORANGE HEART.BILLED CAP.SCARF.G",
  "LOVES.COAT.SOCKS.RED GIFT ENVELOPE.FIRECRACKER.JIGSAW PUZZLE PIECE.TEST TUBE.PETRI DISH.DN",
  "A @ HELIX.COMPASS.ABACUS.FIRE EXTINGUISHER.TOOLBOX.BRICK.MAGNET.LUGGAGEgOTION BOTTLE.SPOOL O",
  "F THREAD.BALL OF YARN.SAFETY PIN.TEDDY BEAR.BROOMeASKET.ROLL OF PAPER.BAR OF SOAP.SPONGE.RECEI",
  "PT.NAZAR AMULETlEUTRAL CHESS KINGeQUEENfROOKeBISHOPgKNIGHTgPAWN.WHITE CHESS KNIGHT ROTATED FOR",
  "TY-FIVE DEGREES.~ CHESS KNIGHT ROTATED FORTY-FIVE DEGREES.NEUTRAL CHESS KNIGHT ROTATED FORTY-F",
  "IVE DEGREES.WHITE CHESS KING ROTATED NINETY DEGREES.WHITE CHESS QUEEN ROTATED NINETY DEGREES.W",
  "HITE CHESS ROOK ROTATED NINETY DEGREES.WHITE CHESS BISHOP ROTATED NINETY DEGREES.WHITE CHESS K",
  "NIGHT ROTATED NINETY DEGREES.WHITE CHESS PAWN ROTATED NINETY DEGREES.~ CHESS KING ROTATED NINE",
  "TY DEGREES.~ CHESS QUEEN ROTATED NINETY DEGREES.~ CHESS ROOK ROTATED NINETY DEGREES.~ CHESS BI",
  "SHOP ROTATED NINETY DEGREES.~ CHESS KNIGHT ROTATED NINETY DEGREES.~ CHESS PAWN ROTATED NINET",
  "Y DEGREES.NEUTRAL CHESS KING ROTATED NINETY DEGREES.NEUTRAL CHESS QUEEN ROTATED NINETY DEGREES",
  ".NEUTRAL CHESS ROOK ROTATED NINETY DEGREES.NEUTRAL CHESS BISHOP ROTATED NINETY DEGREES.NEUTRA",
  "L CHESS KNIGHT ROTATED NINETY DEGREES.NEUTRAL CHESS PAWN ROTATED NINETY DEGREES.WHITE CHESS KN",
  "IGHT ROTATED ONE HUNDRED THIRTY-FIVE DEGREES.~ CHESS KNIGHT ROTATED ONE HUNDRED THIRTY-FIVE DE",
  "GREES.NEUTRAL CHESS KNIGHT ROTATED ONE HUNDRED THIRTY-FIVE DEGREES.WHITE CHESS TURNED KINGeQUE",
  "ENfROOKeBISHOPgKNIGHTgPAWN.~ CHESS TURNED KINGeQUEENfROOKeBISHOPgKNIGHTgPAWN.NEUTRAL CHESS TUR",
  "NED KINGeQUEENfROOKeBISHOPgKNIGHTgPAWN.WHITE CHESS KNIGHT ROTATED TWO HUNDRED TWENTY-FIVE DEGR",
  "EES.~ CHESS KNIGHT ROTATED TWO HUNDRED TWENTY-FIVE DEGREES.NEUTRAL CHESS KNIGHT ROTATED TWO HU",
  "NDRED TWENTY-FIVE DEGREES.WHITE CHESS KING ROTATED TWO HUNDRED SEVENTY DEGREES.WHITE CHESS QUE",
  "EN ROTATED TWO HUNDRED SEVENTY DEGREES.WHITE CHESS ROOK ROTATED TWO HUNDRED SEVENTY DEGREES.WH",
  "ITE CHESS BISHOP ROTATED TWO HUNDRED SEVENTY DEGREES.WHITE CHESS KNIGHT ROTATED TWO HUNDRED SE",
  "VENTY DEGREES.WHITE CHESS PAWN ROTATED TWO HUNDRED SEVENTY DEGREES.~ CHESS KING ROTATED TWO HU",
  "NDRED SEVENTY DEGREES.~ CHESS QUEEN ROTATED TWO HUNDRED SEVENTY DEGREES.~ CHESS ROOK ROTATED T",
  "WO HUNDRED SEVENTY DEGREES.~ CHESS BISHOP ROTATED TWO HUNDRED SEVENTY DEGREES.~ CHESS KNIGHT R",
  "OTATED TWO HUNDRED SEVENTY DEGREES.~ CHESS PAWN ROTATED TWO HUNDRED SEVENTY DEGREES.NEUTRAL CH",
  "ESS KING ROTATED TWO HUNDRED SEVENTY DEGREES.NEUTRAL CHESS QUEEN ROTATED TWO HUNDRED SEVENTY D",
  "EGREES.NEUTRAL CHESS ROOK ROTATED TWO HUNDRED SEVENTY DEGREES.NEUTRAL CHESS BISHOP ROTATED TW",
  "O HUNDRED SEVENTY DEGREES.NEUTRAL CHESS KNIGHT ROTATED TWO HUNDRED SEVENTY DEGREES.NEUTRAL CHE",
  "SS PAWN ROTATED TWO HUNDRED SEVENTY DEGREES.WHITE CHESS KNIGHT ROTATED THREE HUNDRED FIFTEEN D",
  "EGREES.~ CHESS KNIGHT ROTATED THREE HUNDRED FIFTEEN DEGREES.NEUTRAL CHESS KNIGHT ROTATED THRE",
  "E HUNDRED FIFTEEN DEGREES.WHITE CHESS EQUIHOPPER.~ CHESS EQUIHOPPER.NEUTRAL CHESS EQUIHOPPER.W",
  "HITE CHESS EQUIHOPPER ROTATED NINETY DEGREES.~ CHESS EQUIHOPPER ROTATED NINETY DEGREES.NEUTRA",
  "L CHESS EQUIHOPPER ROTATED NINETY DEGREES.WHITE CHESS KNIGHT-QUEENfROOKeBISHOP.~ CHESS KNIGHT-",
  "QUEENfROOKeBISHOP(1FA60).XIANGQI RED GENERALhMANDARINiELEPHANTiHORSEfCHARIOTgANNONgSOLDIERl~ G",
  "ENERALhMANDARINiELEPHANTiHORSEfCHARIOTgANNONgSOLDIER(1FA70).BALLET SHOES.ONE-PIECE SWIMSUIT.BR",
  "IEFS.SHORTS.THONG SANDAL(1FA78).DROP OF BLOOD.ADHESIVE BANDAGE.STETHOSCOPE.X-RAY.CRUTCH(1FA80)",
  ".YO-YO.KITE.PARACHUTE.BOOMERANG.MAGIC WAND.PINATA.NESTING DOLLS(1FA90).RINGED PLANET.CHAIR.RAZ",
  "OR.AXE.DIYA LAMP.BANJO.MILITARY HELMET.ACCORDION.LONG DRUM.COINdARPENTRY SAW.SCREWDRIVER.LADDE",
  "R.HOOK.MIRROR.WINDOW.PLUNGER.SEWING NEEDLE.KNOT.BUCKET.MOUSE TRAP.TOOTHBRUSH.HEADSTONE.PLACARD",
  ".ROCK.MIRROR BALL.IDENTIFICATION CARD.LOW BATTERY.HAMSA(1FAB0).FLY.WORM.BEETLE.COCKROACH.POTTE",
  "D PLANT.WOOD.FEATHER.LOTUS.CORAL.EMPTY NEST.NEST%EGGS(1FAC0).ANATOMICAL HEART.LUNGS.PEOPLE HUG",
  "GINGnREGNANT MANdPERSONoERSON%CROWN(1FAD0).BLUEBERRIESkELL PEPPER.OLIVE.FLATBREAD.TAMALE.FONDU",
  "E.TEAPOT.POURING LIQUID.BEANS.JAR(1FAE0).MELTING FACE.SALUTING FACE.FACE%OPEN EYES+HAND OVER M",
  "OUTH.FACE%PEEKING EYElDIAGONAL MOUTH.DOTTED LINE FACE.BITING LIPjUBBLES(1FAF0).HAND%INDEX FING",
  "ER+THUMB CROSSED.*WARDS HAND.>WARDS HAND.PALM DOWN HANDjUP HAND.INDEX POINTING AT THE VIEWER.H",
  "EART HANDS(1FB00).BLOCK SEXTANT-1b2b12c3b13c23c123d4b14c24c124d34c134d234d1234e5b15c25c125d35c",
  "235d1235e45c145d245d1245e345d1345e2345e12345f6b16c26c126d36c136d236d1236e46c146c246e346d1346e2",
  "346e12346f56c156d256d1256e356d1356e2356e12356f456d1456e2456e12456f3456e13456f23456.LOWER > BLO",
  "CK DIAGONAL LOWER MIDDLE > TO LOWER CENTREg*.LOWER > BLOCK DIAGONAL UPPER MIDDLE > TO LOWER CE",
  "NTREg*.LOWER > BLOCK DIAGONAL UPPER > TO LOWER CENTRE.LOWER * BLOCK DIAGONAL UPPER MIDDLE > T",
  "O UPPER CENTREg*.LOWER * BLOCK DIAGONAL LOWER MIDDLE > TO UPPER CENTREg*.LOWER * BLOCK DIAGONA",
  "L LOWER > TO UPPER CENTREuMIDDLE > TO UPPER MIDDLE *.LOWER * BLOCK DIAGONAL LOWER CENTRE TO LO",
  "WER MIDDLE *.LOWER * BLOCK DIAGONAL LOWER > TO LOWER MIDDLE *.LOWER * BLOCK DIAGONAL LOWER CEN",
  "TRE TO UPPER MIDDLE *.LOWER * BLOCK DIAGONAL LOWER > TO UPPER MIDDLE *.LOWER * BLOCK DIAGONA",
  "L LOWER CENTRE TO UPPER *.LOWER > BLOCK DIAGONAL UPPER CENTRE TO UPPER MIDDLE *.LOWER > BLOC",
  "K DIAGONAL UPPER > TO UPPER MIDDLE *.LOWER > BLOCK DIAGONAL UPPER CENTRE TO LOWER MIDDLE *.LOW",
  "ER > BLOCK DIAGONAL UPPER > TO LOWER MIDDLE *.LOWER > BLOCK DIAGONAL UPPER CENTRE TO LOWER *vM",
  "IDDLE > TO LOWER MIDDLE *.UPPER * BLOCK DIAGONAL LOWER MIDDLE > TO LOWER CENTREg*.UPPER * BLOC",
  "K DIAGONAL UPPER MIDDLE > TO LOWER CENTREg*.UPPER * BLOCK DIAGONAL UPPER > TO LOWER CENTRE.UPP",
  "ER > BLOCK DIAGONAL UPPER MIDDLE > TO UPPER CENTREg*.UPPER > BLOCK DIAGONAL LOWER MIDDLE > T",
  "O UPPER CENTREg*.UPPER > BLOCK DIAGONAL LOWER > TO UPPER CENTREuMIDDLE > TO UPPER MIDDLE *.UPP",
  "ER > BLOCK DIAGONAL LOWER CENTRE TO LOWER MIDDLE *.UPPER > BLOCK DIAGONAL LOWER > TO LOWER MID",
  "DLE *.UPPER > BLOCK DIAGONAL LOWER CENTRE TO UPPER MIDDLE *.UPPER > BLOCK DIAGONAL LOWER > T",
  "O UPPER MIDDLE *.UPPER > BLOCK DIAGONAL LOWER CENTRE TO UPPER *.UPPER * BLOCK DIAGONAL UPPER C",
  "ENTRE TO UPPER MIDDLE *.UPPER * BLOCK DIAGONAL UPPER > TO UPPER MIDDLE *.UPPER * BLOCK DIAGONA",
  "L UPPER CENTRE TO LOWER MIDDLE *.UPPER * BLOCK DIAGONAL UPPER > TO LOWER MIDDLE *.UPPER * BLOC",
  "K DIAGONAL UPPER CENTRE TO LOWER *vMIDDLE > TO LOWER MIDDLE *.UPPER+*+LOWER TRIANGULAR THREE Q",
  "UARTERS BLOCK.>+LOWER+* TRIANGULAR THREE QUARTERS BLOCK.UPPER+>+LOWER TRIANGULAR THREE QUARTER",
  "S BLOCK.>+UPPER+* TRIANGULAR THREE QUARTERS BLOCK.> TRIANGULAR ONE QUARTER BLOCK.UPPER TRIANGU",
  "LAR ONE QUARTER BLOCK.* TRIANGULAR ONE QUARTER BLOCK.LOWER TRIANGULAR ONE QUARTER BLOCK.,ONE E",
  "IGHTH BLOCK-2b3b4b5b6b7.HORIZONTAL ONE EIGHTH BLOCK-2b3b4b5b6b7.>+LOWER ONE EIGHTH BLOCKwUPPE",
  "R ONE EIGHTH BLOCK.*+UPPER ONE EIGHTH BLOCKwLOWER ONE EIGHTH BLOCK.UPPER+LOWER ONE EIGHTH BLOC",
  "K.HORIZONTAL ONE EIGHTH BLOCK-1358.UPPER ONE QUARTER BLOCKrTHREE EIGHTHS BLOCKtFIVE EIGHTHS BL",
  "OCKsTHREE QUARTERS BLOCKuSEVEN EIGHTHS BLOCK.* ONE QUARTER BLOCKrTHREE EIGHTHS BLOCKtFIVE EIGH",
  "THS BLOCKsTHREE QUARTERS BLOCKuSEVEN EIGHTHS BLOCK.> HALF MEDIUM SHADE.* HALF MEDIUM SHADE.UPP",
  "ER HALF MEDIUM SHADE.LOWER HALF MEDIUM SHADE.INVERSE MEDIUM SHADE.UPPER HALF BLOCK+LOWER HAL",
  "F INVERSE MEDIUM SHADE.UPPER HALF INVERSE MEDIUM SHADE+LOWER HALF BLOCK(1FB94).> HALF INVERS",
  "E MEDIUM SHADE+* HALF BLOCK.CHECKER BOARD FILL.INVERSE CHECKER BOARD FILL.HEAVY HORIZONTAL FIL",
  "L.UPPER > TO LOWER * FILLy* TO LOWER > FILLyAND LOWER TRIANGULAR HALF BLOCK.>+* TRIANGULAR HAL",
  "F BLOCK.UPPER > TRIANGULAR MEDIUM SHADE.UPPER * TRIANGULAR MEDIUM SHADE.LOWER * TRIANGULAR MED",
  "IUM SHADE.LOWER > TRIANGULAR MEDIUM SHADE.BOX DRAWINGS LIGHT DIAGONAL UPPER CENTRE TO MIDDLE >",
  "e*.BOX DRAWINGS LIGHT DIAGONAL MIDDLE > TO LOWER CENTREu* TO LOWER CENTRE.BOX DRAWINGS LIGHT D",
  "IAGONAL UPPER CENTRE TO MIDDLE > TO LOWER CENTREu* TO LOWER CENTRE.BOX DRAWINGS LIGHT DIAGONA",
  "L MIDDLE > TO LOWER CENTRE TO MIDDLE *.BOX DRAWINGS LIGHT DIAGONAL MIDDLE > TO UPPER CENTRE T",
  "O MIDDLE *.BOX DRAWINGS LIGHT DIAGONAL UPPER CENTRE TO MIDDLE >+MIDDLE * TO LOWER CENTRE.BOX D",
  "RAWINGS LIGHT DIAGONAL UPPER CENTRE TO MIDDLE *+MIDDLE > TO LOWER CENTRE.BOX DRAWINGS LIGHT DI",
  "AGONAL UPPER CENTRE TO MIDDLE * TO LOWER CENTRE TO MIDDLE >.BOX DRAWINGS LIGHT DIAGONAL UPPE",
  "R CENTRE TO MIDDLE > TO LOWER CENTRE TO MIDDLE *.BOX DRAWINGS LIGHT DIAGONAL MIDDLE > TO UPPE",
  "R CENTRE TO MIDDLE * TO LOWER CENTRE.BOX DRAWINGS LIGHT DIAGONAL MIDDLE * TO UPPER CENTRE TO M",
  "IDDLE > TO LOWER CENTRE.BOX DRAWINGS LIGHT DIAGONAL DIAMONDqHORIZONTAL%,STROKE.ARROWHEAD-SHAPE",
  "D POINTER.INVERSE CHECK|.> HALF RUNNING MAN.* HALF RUNNING MAN.INVERSE DOWNWARDS:%TIP >WARDS.>",
  "WARDS:+UPPER+LOWER ONE EIGHTH BLOCK.*WARDS:+UPPER+LOWER ONE EIGHTH BLOCK.DOWNWARDS:+* ONE EIGH",
  "TH BLOCK.UPWARDS:+* ONE EIGHTH BLOCK.> HALF FOLDER.* HALF FOLDER.VOIDED GREEK CROSS.* OPEN SQU",
  "ARED DOT.NEGATIVE DIAGONAL CROSSfMIDDLE * TO LOWER CENTRE.NEGATIVE DIAGONAL DIAMOND.WHITE HEAV",
  "Y SALTIRE%ROUNDED CORNERS.> THIRD WHITE * POINTING INDEX.MIDDLE THIRD WHITE * POINTING INDEX.",
  "* THIRD WHITE * POINTING INDEX.NEGATIVE SQUARED QUESTION|.STICK FIGUREa%ARMS RAISEDqLEANING >e",
  "*nWITH DRESS.WHITE UP-POINTING CHEVRON(1FBF0).SEGMENTED DIGIT ZEROeONEdTWOcHREEfFOURdIVEeSIXcE",
  "VENfEIGHTfNINE(E0001).LANGUAGE TAG(E0020).TAG SPACEfEXCLAMATION|qQUOTATION|oNUMBER;lDOLLAR;lPE",
  "RCENT;mAMPERSANDiPOSTROPHEk> PARENTHESISq* PARENTHESISrASTERISKiPLUS;jCOMMAfHYPHEN-MINUSmFUL",
  "L STOPjSOLIDUShDIGIT ZEROeONEdTWOcHREEfFOURdIVEeSIXcEVENfEIGHTfNINEkCOLONfSEMICOLONjLESS-THAN;",
  "oEQUALS;lGREATER-THAN;rQUESTION|nCOMMERCIAL ATnLATIN CAPITAL$AbBbCbDbEbFbGbHbIbJbKbLbMbNbObPbQ",
  "bRbSbTbUbVbWbXbYbZvEFT SQUARE BRACKETtREVERSE SOLIDUSoIGHT SQUARE BRACKETuCIRCUMFLEX ACCENTrLO",
  "W LINEiGRAVE ACCENTmLATIN SMALL$AbBbCbDbEbFbGbHbIbJbKbLbMbNbObPbQbRbSbTbUbVbWbXbYbZtEFT CURL",
  "Y BRACKETs,LINEn* CURLY BRACKETtTILDE.CANCEL TAG(E0100).VARIATION SELECTOR-17b8b9c20b1b2b3b4b5",
  "b6b7b8b9c30b1b2b3b4b5b6b7b8b9c40b1b2b3b4b5b6b7b8b9c50b1b2b3b4b5b6b7b8b9c60b1b2b3b4b5b6b7b8b9c7",
  "0b1b2b3b4b5b6b7b8b9c80b1b2b3b4b5b6b7b8b9c90b1b2b3b4b5b6b7b8b9c100b1b2b3b4b5b6b7b8b9c10b1b2b3b4",
  "b5b6b7b8b9c20b1b2b3b4b5b6b7b8b9c30b1b2b3b4b5b6b7b8b9c40b1b2b3b4b5b6b7b8b9c50b1b2b3b4b5b6b7b8b9",
  "c60b1b2b3b4b5b6b7b8b9c70b1b2b3b4b5b6b7b8b9c80b1b2b3b4b5b6b7b8b9c90b1b2b3b4b5b6b7b8b9d200b1b2b3",
  "b4b5b6b7b8b9c10b1b2b3b4b5b6b7b8b9c20b1b2b3b4b5b6b7b8b9c30b1b2b3b4b5b6b7b8b9c40b1b2b3b4b5b6b7b8",
  "b9c50b1b2b3b4b5b6"]

end Readiness.CharacterName
