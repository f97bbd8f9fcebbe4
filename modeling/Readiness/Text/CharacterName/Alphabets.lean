/-!
# Names of characters: alphabets of today

The names of the code points below U+2000.
How they are written down is told where they are looked up.
-/

namespace Readiness.CharacterName

/-- The names of the code points below U+2000. -/
def alphabets : List String := [
  "(20).SPACE.EXCLAMATION|.QUOTATION|.NUMBER;.DOLLAR;.PERCENT;.AMPERSANDiPOSTROPHE.> PARENTHESIS.",
  "* PARENTHESIS.ASTERISK.PLUS;.COMMA.HYPHEN-MINUS.FULL STOP.SOLIDUS.DIGIT ZEROeONEdTWOcHREEfFOUR",
  "dIVEeSIXcEVENfEIGHTfNINE.COLON.SEMICOLON.LESS-THAN;.EQUALS;.GREATER-THAN;.QUESTION|.COMMERCIA",
  "L AT.LATIN CAPITAL$AbBbCbDbEbFbGbHbIbJbKbLbMbNbObPbQbRbSbTbUbVbWbXbYbZ.> SQUARE BRACKET.REVERS",
  "E SOLIDUS.* SQUARE BRACKET.CIRCUMFLEX ACCENT.LOW LINE.GRAVE ACCENT.LATIN SMALL$AbBbCbDbEbFbGbH",
  "bIbJbKbLbMbNbObPbQbRbSbTbUbVbWbXbYbZ.> CURLY BRACKET.,LINE.* CURLY BRACKET.TILDE(A0).NO-BREA",
  "K SPACE.INVERTED EXCLAMATION|.CENT;.POUND;.CURRENCY;.YEN;.BROKEN BAR.SECTION;.DIAERESIS.COPY*;",
  ".FEMININE ORDINAL INDICATOR.>-POINTING @ ANGLE QUOTATION|.NOT;.SOFT HYPHEN.REGISTERED;.MACRON.",
  "DEGREE;.PLUS-MINUS;.SUPERSCRIPT TWOcHREE.ACUTE ACCENT.MICRO;.PILCROW;.MIDDLE DOT.CEDILLA.SUPER",
  "SCRIPT ONE.MASCULINE ORDINAL INDICATOR.*-POINTING @ ANGLE QUOTATION|.VULGAR FRACTION ONE QUART",
  "ERhHALFiTHREE QUARTERS.INVERTED QUESTION|.LATIN CAPITAL$A%GRAVEfACUTEfCIRCUMFLEXkTILDEfDIAERES",
  "ISjRING<qEcC%CEDILLAoE%GRAVEfACUTEfCIRCUMFLEXkDIAERESISqI%GRAVEfACUTEfCIRCUMFLEXkDIAERESISqETH",
  "dN%TILDEmO%GRAVEfACUTEfCIRCUMFLEXkTILDEfDIAERESIS.MULTIPLICATION;.LATIN CAPITAL$O%STROKEnU%GRA",
  "VEfACUTEfCIRCUMFLEXkDIAERESISqY%ACUTEmTHORNuSMALL$SHARP ShA%GRAVEfACUTEfCIRCUMFLEXkTILDEfDIAER",
  "ESISjRING<qEcC%CEDILLAoE%GRAVEfACUTEfCIRCUMFLEXkDIAERESISqI%GRAVEfACUTEfCIRCUMFLEXkDIAERESISqE",
  "THdN%TILDEmO%GRAVEfACUTEfCIRCUMFLEXkTILDEfDIAERESIS.DIVISION;.LATIN SMALL$O%STROKEnU%GRAVEfACU",
  "TEfCIRCUMFLEXkDIAERESISqY%ACUTEmTHORNfY%DIAERESIS.LATIN CAPITAL$A%MACRON.LATIN SMALL$A%MACRON.",
  "LATIN CAPITAL$A%BREVE.LATIN SMALL$A%BREVEzCAPITAL$A%OGONEK.LATIN SMALL$A%OGONEK.LATIN CAPITAL$",
  "C%ACUTE.LATIN SMALL$C%ACUTEzCAPITAL$C%CIRCUMFLEX.LATIN SMALL$C%CIRCUMFLEX.LATIN CAPITAL$C%DOT<",
  ".LATIN SMALL$C%DOT<.LATIN CAPITAL$C%CARON.LATIN SMALL$C%CARONzCAPITAL$D%CARON.LATIN SMALL$D%CA",
  "RONzCAPITAL$D%STROKE.LATIN SMALL$D%STROKE.LATIN CAPITAL$E%MACRON.LATIN SMALL$E%MACRON.LATIN CA",
  "PITAL$E%BREVE.LATIN SMALL$E%BREVEzCAPITAL$E%DOT<.LATIN SMALL$E%DOT<.LATIN CAPITAL$E%OGONEK.LAT",
  "IN SMALL$E%OGONEK.LATIN CAPITAL$E%CARON.LATIN SMALL$E%CARONzCAPITAL$G%CIRCUMFLEX.LATIN SMALL$G",
  "%CIRCUMFLEX.LATIN CAPITAL$G%BREVE.LATIN SMALL$G%BREVEzCAPITAL$G%DOT<.LATIN SMALL$G%DOT<.LATI",
  "N CAPITAL$G%CEDILLA.LATIN SMALL$G%CEDILLA.LATIN CAPITAL$H%CIRCUMFLEX.LATIN SMALL$H%CIRCUMFLEX.",
  "LATIN CAPITAL$H%STROKE.LATIN SMALL$H%STROKE.LATIN CAPITAL$I%TILDE.LATIN SMALL$I%TILDEzCAPITAL$",
  "I%MACRON.LATIN SMALL$I%MACRON.LATIN CAPITAL$I%BREVE.LATIN SMALL$I%BREVEzCAPITAL$I%OGONEK.LATI",
  "N SMALL$I%OGONEK.LATIN CAPITAL$I%DOT<.LATIN SMALL$DOTLESS IwCAPITAL LIGATURE IJtSMALL LIGATUR",
  "E IJrCAPITAL$J%CIRCUMFLEX.LATIN SMALL$J%CIRCUMFLEX.LATIN CAPITAL$K%CEDILLA.LATIN SMALL$K%CEDIL",
  "LAnRAqCAPITAL$L%ACUTE.LATIN SMALL$L%ACUTEzCAPITAL$L%CEDILLA.LATIN SMALL$L%CEDILLA.LATIN CAPITA",
  "L$L%CARON.LATIN SMALL$L%CARONzCAPITAL$L%MIDDLE DOT.LATIN SMALL$L%MIDDLE DOT.LATIN CAPITAL$L%ST",
  "ROKE.LATIN SMALL$L%STROKE.LATIN CAPITAL$N%ACUTE.LATIN SMALL$N%ACUTEzCAPITAL$N%CEDILLA.LATIN SM",
  "ALL$N%CEDILLA.LATIN CAPITAL$N%CARON.LATIN SMALL$N%CARONkPRECEDED BY APOSTROPHE.LATIN CAPITAL$E",
  "NGsSMALL$ENGqCAPITAL$O%MACRON.LATIN SMALL$O%MACRON.LATIN CAPITAL$O%BREVE.LATIN SMALL$O%BREVEzC",
  "APITAL$O%@ ACUTE.LATIN SMALL$O%@ ACUTE.LATIN CAPITAL LIGATURE OEtSMALL LIGATURE OErCAPITAL$R%A",
  "CUTE.LATIN SMALL$R%ACUTEzCAPITAL$R%CEDILLA.LATIN SMALL$R%CEDILLA.LATIN CAPITAL$R%CARON.LATIN S",
  "MALL$R%CARONzCAPITAL$S%ACUTE.LATIN SMALL$S%ACUTEzCAPITAL$S%CIRCUMFLEX.LATIN SMALL$S%CIRCUMFLEX",
  ".LATIN CAPITAL$S%CEDILLA.LATIN SMALL$S%CEDILLA.LATIN CAPITAL$S%CARON.LATIN SMALL$S%CARONzCAPIT",
  "AL$T%CEDILLA.LATIN SMALL$T%CEDILLA.LATIN CAPITAL$T%CARON.LATIN SMALL$T%CARONzCAPITAL$T%STROKE.",
  "LATIN SMALL$T%STROKE.LATIN CAPITAL$U%TILDE.LATIN SMALL$U%TILDEzCAPITAL$U%MACRON.LATIN SMALL$U%",
  "MACRON.LATIN CAPITAL$U%BREVE.LATIN SMALL$U%BREVEzCAPITAL$U%RING<.LATIN SMALL$U%RING<.LATIN CAP",
  "ITAL$U%@ ACUTE.LATIN SMALL$U%@ ACUTE.LATIN CAPITAL$U%OGONEK.LATIN SMALL$U%OGONEK.LATIN CAPITAL",
  "$W%CIRCUMFLEX.LATIN SMALL$W%CIRCUMFLEX.LATIN CAPITAL$Y%CIRCUMFLEX.LATIN SMALL$Y%CIRCUMFLEX.LAT",
  "IN CAPITAL$Y%DIAERESISqZ%ACUTE.LATIN SMALL$Z%ACUTEzCAPITAL$Z%DOT<.LATIN SMALL$Z%DOT<.LATIN CAP",
  "ITAL$Z%CARON.LATIN SMALL$Z%CARONmLONG SgB%STROKE.LATIN CAPITAL$B%HOOKeTOPBAR.LATIN SMALL$B%TOP",
  "BAR.LATIN CAPITAL$TONE SIXxSMALL$TONE SIXvCAPITAL$OPEN OgC%HOOK.LATIN SMALL$C%HOOKyCAPITAL$AFR",
  "ICAN DjD%HOOKeTOPBAR.LATIN SMALL$D%TOPBARnTURNED DELTAzCAPITAL$REVERSED EkSCHWAfOPEN EgF%HOOK.",
  "LATIN SMALL$F%HOOKyCAPITAL$G%HOOKkAMMAuSMALL$HVpCAPITAL$IOTAd%STROKEnK%HOOK.LATIN SMALL$K%HOOK",
  "lL%BARjAMBDA%STROKE.LATIN CAPITAL$TURNED MiN%> HOOK.LATIN SMALL$N%LONG * LEG.LATIN CAPITAL$O%M",
  "IDDLE TILDEmHORN.LATIN SMALL$O%HORNyCAPITAL$OIrSMALL$OIpCAPITAL$P%HOOK.LATIN SMALL$P%HOOK.LATI",
  "N$YRjCAPITAL$TONE TWOxSMALL$TONE TWOvCAPITAL$ESH.LATIN$REVERSED ESH LOOPySMALL$T%PALATAL HOOK.",
  "LATIN CAPITAL$T%HOOK.LATIN SMALL$T%HOOKyCAPITAL$T%RETROFLEX HOOKvU%HORN.LATIN SMALL$U%HORNyCAP",
  "ITAL$UPSILONhV%HOOKlY%HOOK.LATIN SMALL$Y%HOOKyCAPITAL$Z%STROKE.LATIN SMALL$Z%STROKE.LATIN CAPI",
  "TAL$EZHa REVERSED.LATIN SMALL$EZH REVERSEDiWITH TAIL.LATIN$TWO%STROKEwCAPITAL$TONE FIVEySMALL$",
  "TONE FIVE.LATIN$INVERTED GLOTTAL STOP%STROKE.LATIN$WYNNeDENTAL CLICKmLATERAL CLICKnALVEOLAR CL",
  "ICKoRETROFLEX CLICKwCAPITAL$DZ%CARONm%SMALL$Z%CARON.LATIN SMALL$DZ%CARON.LATIN CAPITAL$LJb%SMA",
  "LL$J.LATIN SMALL$LJpCAPITAL$NJb%SMALL$J.LATIN SMALL$NJpCAPITAL$A%CARON.LATIN SMALL$A%CARONzCAP",
  "ITAL$I%CARON.LATIN SMALL$I%CARONzCAPITAL$O%CARON.LATIN SMALL$O%CARONzCAPITAL$U%CARON.LATIN SMA",
  "LL$U%CARONzCAPITAL$U%DIAERESIS+MACRON.LATIN SMALL$U%DIAERESIS+MACRON.LATIN CAPITAL$U%DIAERESIS",
  "+ACUTE.LATIN SMALL$U%DIAERESIS+ACUTE.LATIN CAPITAL$U%DIAERESIS+CARON.LATIN SMALL$U%DIAERESIS+C",
  "ARON.LATIN CAPITAL$U%DIAERESIS+GRAVE.LATIN SMALL$U%DIAERESIS+GRAVE.LATIN SMALL$TURNED EvCAPITA",
  "L$A%DIAERESIS+MACRON.LATIN SMALL$A%DIAERESIS+MACRON.LATIN CAPITAL$A%DOT<+MACRON.LATIN SMALL$A%",
  "DOT<+MACRON.LATIN CAPITAL$AE%MACRON.LATIN SMALL$AE%MACRON.LATIN CAPITAL$G%STROKE.LATIN SMALL$G",
  "%STROKE.LATIN CAPITAL$G%CARON.LATIN SMALL$G%CARONzCAPITAL$K%CARON.LATIN SMALL$K%CARONzCAPITAL$",
  "O%OGONEK.LATIN SMALL$O%OGONEK.LATIN CAPITAL$O%OGONEK+MACRON.LATIN SMALL$O%OGONEK+MACRON.LATI",
  "N CAPITAL$EZH%CARON.LATIN SMALL$EZH%CARONoJ%CARONzCAPITAL$DZb%SMALL$Z.LATIN SMALL$DZpCAPITAL$G",
  "%ACUTE.LATIN SMALL$G%ACUTEzCAPITAL$HWAIRfWYNNeN%GRAVE.LATIN SMALL$N%GRAVEzCAPITAL$A%RING<+ACUT",
  "E.LATIN SMALL$A%RING<+ACUTE.LATIN CAPITAL$AE%ACUTE.LATIN SMALL$AE%ACUTE.LATIN CAPITAL$O%STROKE",
  "+ACUTE.LATIN SMALL$O%STROKE+ACUTE.LATIN CAPITAL$A%@ GRAVE.LATIN SMALL$A%@ GRAVE.LATIN CAPITAL$",
  "A%INVERTED BREVE.LATIN SMALL$A%INVERTED BREVE.LATIN CAPITAL$E%@ GRAVE.LATIN SMALL$E%@ GRAVE.LA",
  "TIN CAPITAL$E%INVERTED BREVE.LATIN SMALL$E%INVERTED BREVE.LATIN CAPITAL$I%@ GRAVE.LATIN SMALL$",
  "I%@ GRAVE.LATIN CAPITAL$I%INVERTED BREVE.LATIN SMALL$I%INVERTED BREVE.LATIN CAPITAL$O%@ GRAVE.",
  "LATIN SMALL$O%@ GRAVE.LATIN CAPITAL$O%INVERTED BREVE.LATIN SMALL$O%INVERTED BREVE.LATIN CAPITA",
  "L$R%@ GRAVE.LATIN SMALL$R%@ GRAVE.LATIN CAPITAL$R%INVERTED BREVE.LATIN SMALL$R%INVERTED BREVE.",
  "LATIN CAPITAL$U%@ GRAVE.LATIN SMALL$U%@ GRAVE.LATIN CAPITAL$U%INVERTED BREVE.LATIN SMALL$U%INV",
  "ERTED BREVE.LATIN CAPITAL$S%COMMA=.LATIN SMALL$S%COMMA=.LATIN CAPITAL$T%COMMA=.LATIN SMALL$T%C",
  "OMMA=.LATIN CAPITAL$YOGHtSMALL$YOGHrCAPITAL$H%CARON.LATIN SMALL$H%CARONzCAPITAL$N%LONG * LEG.L",
  "ATIN SMALL$D%CURLyCAPITAL$OUrSMALL$OUpCAPITAL$Z%HOOK.LATIN SMALL$Z%HOOKyCAPITAL$A%DOT<.LATIN S",
  "MALL$A%DOT<.LATIN CAPITAL$E%CEDILLA.LATIN SMALL$E%CEDILLA.LATIN CAPITAL$O%DIAERESIS+MACRON.LAT",
  "IN SMALL$O%DIAERESIS+MACRON.LATIN CAPITAL$O%TILDE+MACRON.LATIN SMALL$O%TILDE+MACRON.LATIN CAPI",
  "TAL$O%DOT<.LATIN SMALL$O%DOT<.LATIN CAPITAL$O%DOT<+MACRON.LATIN SMALL$O%DOT<+MACRON.LATIN CAPI",
  "TAL$Y%MACRON.LATIN SMALL$Y%MACRONnL%CURLlN%CURLlT%CURLlDOTLESS JiB DIGRAPHkQP DIGRAPHxCAPITAL$",
  "A%STROKEnC%STROKE.LATIN SMALL$C%STROKE.LATIN CAPITAL$L%BARkT%DIAGONAL STROKE.LATIN SMALL$S%SWA",
  "SH TAILrZ%SWASH TAIL.LATIN CAPITAL$GLOTTAL STOP.LATIN SMALL$GLOTTAL STOPzCAPITAL$B%STROKEnU BA",
  "RfTURNED ViE%STROKE.LATIN SMALL$E%STROKE.LATIN CAPITAL$J%STROKE.LATIN SMALL$J%STROKE.LATIN CAP",
  "ITAL$SMALL Q%HOOK TAIL.LATIN SMALL$Q%HOOK TAIL.LATIN CAPITAL$R%STROKE.LATIN SMALL$R%STROKE.LAT",
  "IN CAPITAL$Y%STROKE.LATIN SMALL$Y%STROKEnTURNED AiALPHAfTURNED ALPHAmB%HOOKlOPEN OgC%CURLlD%TA",
  "ILeHOOKlREVERSED EkSCHWAa%HOOKpOPEN EgREVERSED OPEN Ea%HOOKzCLOSED REVERSED OPEN EwDOTLESS J%S",
  "TROKEvG%HOOKlSCRIPT G.LATIN$SMALL CAPITAL GwSMALL$GAMMAfRAMS HORNjTURNED HiH%HOOKkENG%HOOKoI%S",
  "TROKEmOTA.LATIN$SMALL CAPITAL IwSMALL$L%MIDDLE TILDEmBELTeRETROFLEX HOOKuEZHeTURNED Ma%LONG LE",
  "GwM%HOOKlN%> HOOKjRETROFLEX HOOK.LATIN$SMALL CAPITAL NwSMALL$BARRED O.LATIN$SMALL CAPITAL OExS",
  "MALL$CLOSED OMEGAmPHIdTURNED Ra%LONG LEGiHOOKsR%LONG LEGiTAILeFISHHOOKoEVERSED R%FISHHOOK.LATI",
  "N$SMALL CAPITAL RbINVERTED R.LATIN SMALL$S%HOOKlESHdDOTLESS J%STROKE+HOOK.LATIN SMALL$SQUAT RE",
  "VERSED ESHsESH%CURLnTURNED Th%RETROFLEX HOOKvU BARePSILONhV%HOOKlTURNED VbWbY.LATIN$SMALL CAPI",
  "TAL YwSMALL$Z%RETROFLEX HOOKoCURLlEZHa%CURL.LATIN$GLOTTAL STOPmPHARYNGEAL VOICED FRICATIVE.LAT",
  "IN$INVERTED GLOTTAL STOPvSTRETCHED ClBILABIAL CLICKoSMALL CAPITAL BwSMALL$CLOSED OPEN E.LATIN$",
  "SMALL CAPITAL G%HOOKlHwSMALL$J%CROSSED-TAILtTURNED K.LATIN$SMALL CAPITAL LwSMALL$Q%HOOK.LATIN$",
  "GLOTTAL STOP%STROKEyREVERSED GLOTTAL STOP%STROKE.LATIN SMALL$DZ DIGRAPHjEZH DIGRAPHlZ DIGRAPH%",
  "CURLuTS DIGRAPHjESH DIGRAPHlC DIGRAPH%CURLuFENG DIGRAPHmLS DIGRAPHjZ DIGRAPH.LATIN$BILABIAL PE",
  "RCUSSIVErDENTAL PERCUSSIVE.LATIN SMALL$TURNED H%FISHHOOKa+TAIL.MODIFIER$SMALL Ha%HOOKlJbRbTURN",
  "ED Ra%HOOKsCAPITAL INVERTED RsWbYhPRIMEf@ PRIMEmTURNED COMMAmAPOSTROPHEkREVERSED COMMAnIGHT HA",
  "LF RINGp> HALF RINGoGLOTTAL STOPmREVERSED GLOTTAL STOPv>:HEADo*:HEADpUP:HEADmDOWN:HEADoCIRCUMF",
  "LEX ACCENT.CARON.MODIFIER$,LINEnMACRONgACUTE ACCENTmGRAVE ACCENTmLOW ,LINEnMACRONgGRAVE ACCENT",
  "mACUTE ACCENTqTRIANGULAR COLONqHALF TRIANGULAR COLONvCENTRED * HALF RINGp> HALF RINGwUP TACKhD",
  "OWN TACKjPLUS;jMINUS;.BREVE.DOT<.RING<.OGONEK.SMALL TILDE.@ ACUTE ACCENT.MODIFIER$RHOTIC HOOKl",
  "CROSS ACCENTmSMALL GAMMAfLbSbXbREVERSED GLOTTAL STOP.MODIFIER$EXTRA-HIGH TONE BARtHIGH TONE BA",
  "RnMID TONE BARmLOW TONE BARmEXTRA-LOW TONE BARsYIN DEPARTING TONE|wANG DEPARTING TONE|yVOICING",
  "hUNASPIRATEDl@ APOSTROPHErLOW DOWN:HEADoUP:HEADm>:HEADo*:HEADnNGiMIDDLE GRAVE ACCENTm@ GRAVE A",
  "CCENTmACUTE ACCENT.MODIFIER$LOW TILDEjRAISED COLONmBEGIN HIGH TONEpEND HIGH TONEnBEGIN LOW TON",
  "EoEND LOW TONEmSHELFfOPEN SHELFkLOW >:.COMBINING GRAVE ACCENTmACUTE ACCENTmCIRCUMFLEX ACCENTrT",
  "ILDEfMACRONgOVERLINEiBREVEfDOT<iIAERESISjHOOK<kRING<k@ ACUTE ACCENTtCARONf,LINE<t@ ,LINE<tGRAV",
  "E ACCENTtCANDRABINDUlINVERTED BREVEoTURNED COMMA<sCOMMA<lREVERSED COMMA<uCOMMA< *rGRAVE ACCENT",
  "=sACUTE ACCENT=s> TACK=p* TACK=q> ANGLE<qHORNe> HALF RING=uUP TACK=nDOWN TACK=pPLUS;=pMINUS;=q",
  "PALATALIZED HOOK=wRETROFLEX HOOK=uDOT=iIAERESIS=pRING=kCOMMA=kEDILLAhOGONEKg,LINE=tBRIDGE=mINV",
  "ERTED @ ARCH=.COMBINING CARON=kIRCUMFLEX ACCENT=xBREVE=lINVERTED BREVE=uTILDE=lMACRON=mLOW LIN",
  "Ei@ LOW LINEpTILDE OVERLAYnSHORT STROKE OVERLAYuLONG STROKE OVERLAYtSHORT SOLIDUS OVERLAYvLON",
  "G SOLIDUS OVERLAYu* HALF RING=vINVERTED BRIDGE=vSQUARE=lEAGULL=nX<h,TILDEo@ OVERLINEpGRAVE TON",
  "E|pACUTE TONE|pGREEK PERISPOMENIlKORONIShDIALYTIKA TONOSpYPOGEGRAMMENItBRIDGE<mEQUALS;=r@ ,LIN",
  "E=.COMBINING > ANGLE=qNOT TILDE<pHOMOTHETIC<qALMOST EQUAL TO<v> *:=wUPWARDS:=tGRAPHEME JOINERp",
  "*:HEAD<v> HALF RING<uFERMATAhX=h>:HEAD=u*:HEAD=fAND UP:HEAD=.COMBINING * HALF RING<vDOT< *pAST",
  "ERISK=o@ RING=rZIGZAG<m@ BREVE=gfMACRONa=mTILDEfINVERTED BREVEo*WARDS:=.COMBINING LATIN SMALL$",
  "AbEbIbObUbCbDbHbMbRbTbVbX.GREEK CAPITAL$HETAtSMALL$HETArCAPITAL$ARCHAIC SAMPI.GREEK SMALL$ARCH",
  "AIC SAMPI.GREEK NUMERAL;mLOWER NUMERAL;sCAPITAL$PAMPHYLIAN DIGAMMA.GREEK SMALL$PAMPHYLIAN DIGA",
  "MMA(37A).GREEK YPOGEGRAMMENInSMALL REVERSED LUNATE SIGMA_.GREEK SMALL DOTTED LUNATE SIGMA_.GRE",
  "EK SMALL REVERSED DOTTED LUNATE SIGMA_.GREEK QUESTION|nCAPITAL$YOT(384)sTONOSfDIALYTIKA TONOSp",
  "CAPITAL$ALPHA%TONOS.GREEK ANO TELEIAkCAPITAL$EPSILON%TONOSrTA%TONOSoIOTA%TONOS(38C)pOMICRON%TO",
  "NOS(38E)sUPSILON%TONOSsOMEGA%TONOS.GREEK SMALL$IOTA%DIALYTIKA+TONOS.GREEK CAPITAL$ALPHAfBETAeG",
  "AMMAfDELTAfEPSILONhZETAeETAdTHETAfIOTAeKAPPAfLAMDAfMUcNUcXIcOMICRONhPIcRHO(3A3)dSIGMAfTAUdUPSI",
  "LONhPHIdCHIdPSIdOMEGAfIOTA%DIALYTIKAtUPSILON%DIALYTIKA.GREEK SMALL$ALPHA%TONOSqEPSILON%TONOSrT",
  "A%TONOSoIOTA%TONOSpUPSILON%DIALYTIKA+TONOS.GREEK SMALL$ALPHAfBETAeGAMMAfDELTAfEPSILONhZETAeETA",
  "dTHETAfIOTAeKAPPAfLAMDAfMUcNUcXIcOMICRONhPIcRHOdFINAL SIGMAlSIGMAfTAUdUPSILONhPHIdCHIdPSIdOMEG",
  "AfIOTA%DIALYTIKAtUPSILON%DIALYTIKAwOMICRON%TONOSsUPSILON%TONOSsOMEGA%TONOS.GREEK CAPITAL KAI_s",
  "BETA_lTHETA_mUPSILON%HOOK_lACUTE+HOOK_vDIAERESIS+HOOK_.GREEK PHI_jI_jKAI_.GREEK$ARCHAIC KOPPAu",
  "SMALL$ARCHAIC KOPPA.GREEK$STIGMAnSMALL$STIGMA.GREEK$DIGAMMAoSMALL$DIGAMMA.GREEK$KOPPAmSMALL$KO",
  "PPA.GREEK$SAMPImSMALL$SAMPI.COPTIC CAPITAL$SHEItSMALL$SHEIrCAPITAL$FEIsSMALL$FEIqCAPITAL$KHEIt",
  "SMALL$KHEIrCAPITAL$HORItSMALL$HORIrCAPITAL$GANGIAvSMALL$GANGIAtCAPITAL$SHIMAuSMALL$SHIMAsCAPIT",
  "AL$DEIsSMALL$DEI.GREEK KAPPA_mRHO_kLUNATE SIGMA_.GREEK$YOTkCAPITAL THETA_uLUNATE EPSILON_vREVE",
  "RSED LUNATE EPSILON_.GREEK CAPITAL$SHOsSMALL$SHOqCAPITAL LUNATE SIGMA_sETTER SANsSMALL$SANqRHO",
  "%STROKE_wCAPITAL REVERSED LUNATE SIGMA_.GREEK CAPITAL DOTTED LUNATE SIGMA_.GREEK CAPITAL REVER",
  "SED DOTTED LUNATE SIGMA_.CYRILLIC CAPITAL$IE%GRAVEmOcDJEdGJEdUKRAINIAN IEmDZEdBYELORUSSIAN-UKR",
  "AINIAN IyYIcJEcLJEdNJEdTSHEeKJEdI%GRAVEmSHORT UhDZHEeAbBEcVEcGHEdDEcIEcZHEcEcIbSHORT IhKAcELbM",
  "bNcObPEcERbScTEcUbEFcHAcTSEdCHEdSHAbCHAfHARD;jYERUeSOFT;jEbYUbArSMALL$AbBEcVEcGHEdDEcIEcZHEcEc",
  "IbSHORT IhKAcELbMbNcObPEcERbScTEcUbEFcHAcTSEdCHEdSHAbCHAfHARD;jYERUeSOFT;jEbYUbAcIE%GRAVEmOcDJ",
  "EdGJEdUKRAINIAN IEmDZEdBYELORUSSIAN-UKRAINIAN IyYIcJEcLJEdNJEdTSHEeKJEdI%GRAVEmSHORT UhDZHErCA",
  "PITAL$OMEGAuSMALL$OMEGAsCAPITAL$YATsSMALL$YATqCAPITAL$IOTIFIED EzSMALL$IOTIFIED ExCAPITAL$LITT",
  "LE YUSzSMALL$LITTLE YUSxCAPITAL$IOTIFIED LITTLE YUS.CYRILLIC SMALL$IOTIFIED LITTLE YUS.CYRILLI",
  "C CAPITAL$BIG YUSwSMALL$BIG YUSuCAPITAL$IOTIFIED BIG YUS.CYRILLIC SMALL$IOTIFIED BIG YUS.CYRIL",
  "LIC CAPITAL$KSIsSMALL$KSIqCAPITAL$PSIsSMALL$PSIqCAPITAL$FITAtSMALL$FITArCAPITAL$IZHITSAwSMALL$",
  "IZHITSAuCAPITAL$IZHITSA%@ GRAVE ACCENT.CYRILLIC SMALL$IZHITSA%@ GRAVE ACCENT.CYRILLIC CAPITAL$",
  "UKrSMALL$UKpCAPITAL$ROUND OMEGA.CYRILLIC SMALL$ROUND OMEGAyCAPITAL$OMEGA%TITLO.CYRILLIC SMALL$",
  "OMEGA%TITLO.CYRILLIC CAPITAL$OTrSMALL$OTpCAPITAL$KOPPAuSMALL$KOPPAsTHOUSANDS;wOMBINING CYRILLI",
  "C TITLOfPALATALIZATIONoDASIA PNEUMATAoPSILI PNEUMATAnOKRYTIEiHUNDRED THOUSANDS;wMILLIONS;.CYRI",
  "LLIC CAPITAL$SHORT I%TAIL.CYRILLIC SMALL$SHORT I%TAIL.CYRILLIC CAPITAL$SEMISOFT;.CYRILLIC SMAL",
  "L$SEMISOFT;.CYRILLIC CAPITAL$ER%TICK.CYRILLIC SMALL$ER%TICKzCAPITAL$GHE%UPTURN.CYRILLIC SMALL$",
  "GHE%UPTURN.CYRILLIC CAPITAL$GHE%STROKE.CYRILLIC SMALL$GHE%STROKE.CYRILLIC CAPITAL$GHE%MIDDLE H",
  "OOK.CYRILLIC SMALL$GHE%MIDDLE HOOK.CYRILLIC CAPITAL$ZHE%DESCENDER.CYRILLIC SMALL$ZHE%DESCENDER",
  ".CYRILLIC CAPITAL$ZE%DESCENDER.CYRILLIC SMALL$ZE%DESCENDER.CYRILLIC CAPITAL$KA%DESCENDER.CYRIL",
  "LIC SMALL$KA%DESCENDER.CYRILLIC CAPITAL$KA%,STROKE.CYRILLIC SMALL$KA%,STROKE.CYRILLIC CAPITAL$",
  "KA%STROKE.CYRILLIC SMALL$KA%STROKE.CYRILLIC CAPITAL$BASHKIR KAzSMALL$BASHKIR KAxCAPITAL$EN%DES",
  "CENDER.CYRILLIC SMALL$EN%DESCENDER.CYRILLIC CAPITAL LIGATURE EN GHExSMALL LIGATURE EN GHEvCAPI",
  "TAL$PE%MIDDLE HOOK.CYRILLIC SMALL$PE%MIDDLE HOOK.CYRILLIC CAPITAL$ABKHASIAN HA.CYRILLIC SMALL$",
  "ABKHASIAN HAzCAPITAL$ES%DESCENDER.CYRILLIC SMALL$ES%DESCENDER.CYRILLIC CAPITAL$TE%DESCENDER.CY",
  "RILLIC SMALL$TE%DESCENDER.CYRILLIC CAPITAL$STRAIGHT UzSMALL$STRAIGHT UxCAPITAL$STRAIGHT U%STRO",
  "KE.CYRILLIC SMALL$STRAIGHT U%STROKE.CYRILLIC CAPITAL$HA%DESCENDER.CYRILLIC SMALL$HA%DESCENDER.",
  "CYRILLIC CAPITAL LIGATURE TE TSExSMALL LIGATURE TE TSEvCAPITAL$CHE%DESCENDER.CYRILLIC SMALL$CH",
  "E%DESCENDER.CYRILLIC CAPITAL$CHE%,STROKE.CYRILLIC SMALL$CHE%,STROKE.CYRILLIC CAPITAL$SHHAtSMAL",
  "L$SHHArCAPITAL$ABKHASIAN CHE.CYRILLIC SMALL$ABKHASIAN CHE.CYRILLIC CAPITAL$ABKHASIAN CHE%DESCE",
  "NDER.CYRILLIC SMALL$ABKHASIAN CHE%DESCENDER.CYRILLIC$PALOCHKApCAPITAL$ZHE%BREVE.CYRILLIC SMALL",
  "$ZHE%BREVE.CYRILLIC CAPITAL$KA%HOOK.CYRILLIC SMALL$KA%HOOKzCAPITAL$EL%TAIL.CYRILLIC SMALL$EL%T",
  "AILzCAPITAL$EN%HOOK.CYRILLIC SMALL$EN%HOOKzCAPITAL$EN%TAIL.CYRILLIC SMALL$EN%TAILzCAPITAL$KHAK",
  "ASSIAN CHE.CYRILLIC SMALL$KHAKASSIAN CHE.CYRILLIC CAPITAL$EM%TAIL.CYRILLIC SMALL$EM%TAILmPALOC",
  "HKAvCAPITAL$A%BREVE.CYRILLIC SMALL$A%BREVEzCAPITAL$A%DIAERESIS.CYRILLIC SMALL$A%DIAERESIS.CYRI",
  "LLIC CAPITAL LIGATURE A IEvSMALL LIGATURE A IEtCAPITAL$IE%BREVE.CYRILLIC SMALL$IE%BREVE.CYRILL",
  "IC CAPITAL$SCHWAuSMALL$SCHWAsCAPITAL$SCHWA%DIAERESIS.CYRILLIC SMALL$SCHWA%DIAERESIS.CYRILLIC C",
  "APITAL$ZHE%DIAERESIS.CYRILLIC SMALL$ZHE%DIAERESIS.CYRILLIC CAPITAL$ZE%DIAERESIS.CYRILLIC SMALL",
  "$ZE%DIAERESIS.CYRILLIC CAPITAL$ABKHASIAN DZE.CYRILLIC SMALL$ABKHASIAN DZE.CYRILLIC CAPITAL$I%M",
  "ACRON.CYRILLIC SMALL$I%MACRON.CYRILLIC CAPITAL$I%DIAERESIS.CYRILLIC SMALL$I%DIAERESIS.CYRILLI",
  "C CAPITAL$O%DIAERESIS.CYRILLIC SMALL$O%DIAERESIS.CYRILLIC CAPITAL$BARRED OxSMALL$BARRED OvCAPI",
  "TAL$BARRED O%DIAERESIS.CYRILLIC SMALL$BARRED O%DIAERESIS.CYRILLIC CAPITAL$E%DIAERESIS.CYRILLI",
  "C SMALL$E%DIAERESIS.CYRILLIC CAPITAL$U%MACRON.CYRILLIC SMALL$U%MACRON.CYRILLIC CAPITAL$U%DIAER",
  "ESIS.CYRILLIC SMALL$U%DIAERESIS.CYRILLIC CAPITAL$U%@ ACUTE.CYRILLIC SMALL$U%@ ACUTE.CYRILLIC C",
  "APITAL$CHE%DIAERESIS.CYRILLIC SMALL$CHE%DIAERESIS.CYRILLIC CAPITAL$GHE%DESCENDER.CYRILLIC SMAL",
  "L$GHE%DESCENDER.CYRILLIC CAPITAL$YERU%DIAERESIS.CYRILLIC SMALL$YERU%DIAERESIS.CYRILLIC CAPITAL",
  "$GHE%STROKE+HOOK.CYRILLIC SMALL$GHE%STROKE+HOOK.CYRILLIC CAPITAL$HA%HOOK.CYRILLIC SMALL$HA%HOO",
  "KzCAPITAL$HA%STROKE.CYRILLIC SMALL$HA%STROKE.CYRILLIC CAPITAL$KOMI DEwSMALL$KOMI DEuCAPITAL$KO",
  "MI DJExSMALL$KOMI DJEvCAPITAL$KOMI ZJExSMALL$KOMI ZJEvCAPITAL$KOMI DZJEySMALL$KOMI DZJEwCAPITA",
  "L$KOMI LJExSMALL$KOMI LJEvCAPITAL$KOMI NJExSMALL$KOMI NJEvCAPITAL$KOMI SJExSMALL$KOMI SJEvCAPI",
  "TAL$KOMI TJExSMALL$KOMI TJEvCAPITAL$REVERSED ZE.CYRILLIC SMALL$REVERSED ZEyCAPITAL$EL%HOOK.CYR",
  "ILLIC SMALL$EL%HOOKzCAPITAL$LHAsSMALL$LHAqCAPITAL$RHAsSMALL$RHAqCAPITAL$YAEsSMALL$YAEqCAPITAL$",
  "QArSMALL$QApCAPITAL$WErSMALL$WEpCAPITAL$ALEUT KAxSMALL$ALEUT KAvCAPITAL$EL%MIDDLE HOOK.CYRILLI",
  "C SMALL$EL%MIDDLE HOOK.CYRILLIC CAPITAL$EN%MIDDLE HOOK.CYRILLIC SMALL$EN%MIDDLE HOOK.CYRILLI",
  "C CAPITAL$PE%DESCENDER.CYRILLIC SMALL$PE%DESCENDER.CYRILLIC CAPITAL$SHHA%DESCENDER.CYRILLIC SM",
  "ALL$SHHA%DESCENDER.CYRILLIC CAPITAL$EN%> HOOK.CYRILLIC SMALL$EN%> HOOK.CYRILLIC CAPITAL$DZZHEu",
  "SMALL$DZZHEsCAPITAL$DCHEtSMALL$DCHErCAPITAL$EL%DESCENDER.CYRILLIC SMALL$EL%DESCENDER(531).ARME",
  "NIAN CAPITAL$AYBdBENdGIMdDAcECHdZAcEHbTcTOcZHEdINIdLIWNeXEHdCAcKENdHOcJAcGHADeCHEHeMENdYIcNOWd",
  "SHAdVOcCHAdPEHdJHEHeRAcSEHdVEWdTIWNeREHdCOcYIWNePIWReKEHdOHcFEH(559)sMODIFIER$> HALF RING.ARME",
  "NIAN APOSTROPHEkEMPHASIS|mXCLAMATION|qCOMMAfQUESTION|nABBREVIATION|rSMALL$TURNED AYBkAYBdBENdG",
  "IMdDAcECHdZAcEHbTcTOcZHEdINIdLIWNeXEHdCAcKENdHOcJAcGHADeCHEHeMENdYIcNOWdSHAdVOcCHAdPEHdJHEHeRA",
  "cSEHdVEWdTIWNeREHdCOcYIWNePIWReKEHdOHcFEHjIGATURE ECH YIWNqETTER YI%STROKE.ARMENIAN FULL STOPj",
  "HYPHEN(58D).*-FACING ARMENIAN ETERNITY;.>-FACING ARMENIAN ETERNITY;.ARMENIAN DRAM;(591).HEBRE",
  "W ACCENT ETNAHTAhSEGOLeHALSHELETkZAQEF QATANfGADOLlTIPEHAgREVIAfZARQAfPASHTAgYETIVfTEVIRfGERES",
  "Ha MUQDAMkSHAYIMjQARNEY PARAlTELISHA GEDOLAoPAZERfATNAH HAFUKHmMUNAHeAHAPAKHhERKHAa KEFULAnDAR",
  "GAfQADMAfTELISHA QETANAoYERAH BEN YOMOoOLEdILUYeDEHIeZINORmMARK MASORA CIRCLEsPOINT SHEVAfHATA",
  "F SEGOLfPATAHfQAMATSlIRIQfTSEREfSEGOLfPATAHfQAMATSgHOLAMa HASER FOR VAVtQUBUTSgDAGESH OR MAPIQ",
  "pMETEGkUNCTUATION MAQAFqOINT RAFEjUNCTUATION PASEQqOINT SHIN DOThIN DOTmUNCTUATION SOF PASUQvM",
  "ARK UPPER DOTjLOWER DOToPUNCTUATION NUN HAFUKHAwOINT QAMATS QATAN(5D0).HEBREW$ALEFeBETdGIMELfD",
  "ALETfHEcVAVdZAYINfHETdTETdYODdFINAL KAFjKAFdLAMEDfFINAL MEMjMEMdFINAL NUNjNUNdSAMEKHgAYINeFINA",
  "L PEiPEcFINAL TSADIlTSADIfQOFdRESHeSHINeTAV(5EF)kYOD^mLIGATURE YIDDISH @ VAVkVAV YODh@ YOD.HEB",
  "REW PUNCTUATION GERESHdSHAYIM(600).ARABIC NUMBER;lSIGN SANAHkFOOTNOTE|ERpSIGN SAFHAdMVATlNUMBE",
  "R|<s-INDIC CUBE ROOTjFOURTH ROOTs RAYe-INDIC PER MILLE;kTEN THOUSAND;.AFGHANI;lRABIC COMMAfDAT",
  "E SEPARATORoPOETIC VERSE;rSIGN MISRAfSALLALLAHOU ALAYHE WASSALLAM.ARABIC; ALAYHE ASSALLAMpRAHM",
  "ATULLAH ALAYHEqDI ALLAHOU ANHUrTAKHALLUSnMALL HIGH TAHdLIGATURE ALEF%LAM%YEH.ARABIC SMALL HIG",
  "H ZAINjFATHAfDAMMAfKASRAkEMICOLONjLETTER|lEND OF TEXT|qTRIPLE DOT PUNCTUATION|.ARABIC QUESTION",
  "|.ARABIC$KASHMIRI YEHmHAMZAfALEF%MADDA<lHAMZA<vWAW%HAMZA<uALEF%HAMZA=vYEH%HAMZA<uALEFeBEHdTE",
  "H MARBUTAicHEHeJEEMeHAHdKHAHeDALdTHALeREHdZAINeSEENdHEENeADdDADdTAHdZAHdAINdGHAINfKEHEH%TWO DO",
  "TS<nHREE DOTS=.ARABIC$FARSI YEH%INVERTED VkTWO DOTS<nHREE DOTS<.ARABIC TATWEEL.ARABIC$FEHdQAFd",
  "KAFdLAMdMEEMeNOONeHEHdWAWdALEF MAKSURAmYEHkFATHATANiDAMMATANiKASRATANiFATHAfDAMMAfKASRAfSHADDA",
  "fUKUNfMADDAH<mHAMZA<fBELOWlSUBSCRIPT ALEFoINVERTED DAMMAoMARK NOON GHUNNAqZWARAKAYiVOWEL; SMAL",
  "L V<nINVERTED SMALL V<wDOT=uREVERSED DAMMAoFATHA%TWO DOTStWAVY HAMZA=r-INDIC DIGIT ZEROeONEdTW",
  "OcHREEfFOURdIVEeSIXcEVENfEIGHTfNINEr PERCENT;mDECIMAL SEPARATORrTHOUSANDS SEPARATORtFIVE POINT",
  "ED STAR.ARABIC$DOTLESS BEHdQAFlSUPERSCRIPT ALEFqALEF WASLAeITH WAVY HAMZA<fBELOW.ARABIC$HIGH H",
  "AMZAa ALEFeWAWoU%HAMZA<sHIGH HAMZA YEHoTTEHaEHgBEEHeTEH%RINGeTHREE DOTS< DOWNWARDS.ARABIC$PEHd",
  "TEHEHfBEHEHfHAH%HAMZA<lTWO DOTS ,ABOVE.ARABIC$NYEHeDYEHeHAH%THREE DOTS<zTCHEHaEHhDDALdAL%RINGe",
  "DOT=a+SMALL TAH.ARABIC$DAHALeDAHALfULcAL%THREE DOTS< DOWNWARDS.ARABIC$DAL%FOUR DOTS<yRREHdEH%S",
  "MALL VhRINGeDOT=jSMALL V=nDOT=+DOT<xTWO DOTS<xJEHdREH%FOUR DOTS<ySEEN%DOT=+DOT<xTHREE DOTS=a+T",
  "HREE DOTS<.ARABIC$SAD%TWO DOTS=nHREE DOTS<zTAH%THREE DOTS<zAIN%THREE DOTS<zDOTLESS FEHlFEH%DO",
  "T MOVED=lBELOWsVEHdFEH%THREE DOTS=zPEHEHfQAF%DOT<jTHREE DOTS<zKEHEHfSWASH KAFjKAF%RINGeDOT<sNG",
  "cKAF%THREE DOTS=zGAFa%RINGnNGOEHfGAF%TWO DOTS=wUEHdAF%THREE DOTS<zLAM%SMALL VhDOT<jTHREE DOTS<",
  "fBELOWzNOON%DOT=oGHUNNAlRNOONfNOON%RINGeTHREE DOTS<.ARABIC$HEH DOACHASHMEEpTCHEH%DOT<uHEH%YEH<",
  "oGOALa%HAMZA<zTEH MARBUTA GOALqWAW%RINGnKIRGHIZ OEkOEcUbYUcKIRGHIZ YUkWAW%TWO DOTS<xVEcFARSI Y",
  "EHjYEH%TAILeSMALL VqWAW%DOT<sEbYEH%THREE DOTS=vBARREEa%HAMZA<.ARABIC FULL STOP.ARABIC$AEjSMAL",
  "L HIGH LIGATURE SAD%LAM%ALEF MAKSURA.ARABIC SMALL HIGH LIGATURE QAF%LAM%ALEF MAKSURA.ARABIC SM",
  "ALL HIGH MEEM INITIAL&rLAM ALEFiJEEMeTHREE DOTSkSEENpEND OF AYAHlSTART OF RUB EL HIZBtMALL HIG",
  "H ROUNDED ZEROmUP* RECTANGULAR ZEROyDOTLESS HEAD OF KHAHuMEEM ISOLATED&xLOW SEENiHIGH MADDAkWA",
  "WdYEHdHIGH YEHdNOONpPLACE OF SAJDAHpEMPTY CENTRE LOW STOPiHIGH STOPwROUNDED HIGH STOP%FILLED C",
  "ENTRE.ARABIC SMALL LOW MEEM.ARABIC$DAL%INVERTED VtREH%INVERTED V.EXTENDED ARABIC-INDIC DIGIT Z",
  "EROeONEdTWOcHREEfFOURdIVEeSIXcEVENfEIGHTfNINE.ARABIC$SHEEN%DOT=uDAD%DOT=sGHAIN%DOT=.ARABIC; SI",
  "NDHI AMPERSANDjPOSTPOSITION MEN.ARABIC$HEH%INVERTED V.SYRIAC END OF PARAGRAPHqSUPRALINEAR FUL",
  "L STOPtBLINEAR FULL STOPrPRALINEAR COLONpBLINEAR COLONpHORIZONTAL COLONqCOLON SKEWED >e*sSUPRA",
  "LINEAR COLON SKEWED >.SYRIAC SUBLINEAR COLON SKEWED *.SYRIAC CONTRACTIONlHARKLEAN OBELUSgMETOB",
  "ELUSjASTERISCUS(70F)tABBREVIATION|.SYRIAC$ALAPHfSUPERSCRIPT ALAPHrBETHeGAMALa GARSHUNIoDALATHf",
  "OTLESS DALATH RISHtHEcWAWdZAINeHETHeTETHa GARSHUNInYUDHa HEhKAPHeLAMADHgMIMdNUNdSEMKATHhFINA",
  "L SEMKATHnEbPEcREVERSED PElSADHEfQAPHeRISHeSHINeTAWdPERSIAN BHETHfGHAMALgDHALATHwPTHAHA<fBELOW",
  "fDOTTEDnZQAPHA<fBELOWfDOTTEDnRBASA<fBELOWlDOTTED ZLAMA HORIZONTALkANGULARuHBASA<fBELOWg-ESAS",
  "A DOTTEDsESASA<fBELOWlRWAHAfFEMININE DOTmQUSHSHAYAjRUKKAKHAiTWO ,DOTS<fBELOWwHREE DOTS<fBELOWq",
  "OBLIQUE LINE<fBELOWsMUSICfBARREKH(74D).SYRIAC$SOGDIAN ZHAINfKHAPHfFE.ARABIC$BEH%THREE DOTS HOR",
  "IZONTALLY=.ARABIC$BEH%DOT=+THREE DOTS<.ARABIC$BEH%THREE DOTS POINTING UPWARDS=a+TWO DOTS<.ARAB",
  "IC$BEH%TWO DOTS=+DOT<.ARABIC$BEH%INVERTED SMALL V=wSMALL VqHAH%TWO DOTS<nHREE DOTS POINTING UP",
  "WARDS=.ARABIC$DAL%TWO DOTS VERTICALLY=+SMALL TAH.ARABIC$DAL%INVERTED SMALL V=.ARABIC$REH%STROK",
  "EpSEEN%FOUR DOTS<zAIN%TWO DOTS<nHREE DOTS POINTING DOWNWARDS<.ARABIC$AIN%TWO DOTS VERTICALLY<.",
  "ARABIC$FEH%TWO DOTS=nHREE DOTS POINTING UPWARDS=.ARABIC$KEHEH%DOT<jTHREE DOTS<fPOINTING UPWARD",
  "S=.ARABIC$MEEM%DOT<fBELOWtNOON%TWO DOTS=oSMALL TAHdVrLAM%BARmREH%TWO DOTS VERTICALLY<zHAMZA<uS",
  "EEN%TWO DOTS VERTICALLY<.ARABIC$HAH%SMALL ARABIC$TAH=fAND TWO DOTS.ARABIC$SEEN%SMALL ARABIC$TA",
  "H+TWO DOTS.ARABIC$REH%SMALL ARABIC$TAH+TWO DOTS.ARABIC$HAH%SMALL ARABIC$TAH<.ARABIC$ALEF%EXTEN",
  "DED ARABIC-INDIC DIGIT TWO<iHREE<.ARABIC$FARSI YEH%EXTENDED ARABIC-INDIC DIGIT TWO<iHREE<lFOUR",
  "=.ARABIC$WAW%EXTENDED ARABIC-INDIC DIGIT TWO<iHREE<.ARABIC$YEH BARREE%EXTENDED ARABIC-INDIC DI",
  "GIT TWO<iHREE<.ARABIC$HAH%EXTENDED ARABIC-INDIC DIGIT FOUR=.ARABIC$SEEN%EXTENDED ARABIC-INDI",
  "C DIGIT FOUR<.ARABIC$SEEN%INVERTED VuKAF%TWO DOTS<.THAANA$HAAdSHAVIYANIjNOONUfRAAdBAAdLHAVIYAN",
  "IjKAAFUfALIFUfVAAVUfMEEMUfFAAFUfDHAALUgTHAAeLAAMUfGAAFUeNAVIYANIjSEENUfDAVIYANIiZAVIYANIiTAVIY",
  "ANIiYAAdPAVIYANIiJAVIYANIiCHAVIYANIjTTAAeHHAAeKHAAeTHAALUgZAAdSHEENUfAADHUgDAADHUgTOcZOcAINUeG",
  "HAINUgQAAFUfWAAVUmABAFILIgABAAFILIjIBIFILIhEEBEEFILIjUBUFILIhOOBOOFILIjEBEFILIgYBEYFILIjOBOFIL",
  "IgABOAFILIjSUKUN.THAANA$NAA(7C0).NKO DIGIT ZEROeONEdTWOcHREEfFOURdIVEeSIXcEVENfEIGHTfNINE.NKO$",
  "AbEEcIbEbUbOObbDAGBASINNAkNbBAcPAcTAcJAcCHAdDAcRAbRAdSAcGBAdFAcKAcLAcNA WOLOSOjMAcNYAcAcHAcWAc",
  "YAcNYA WOLOSOkJONA JAcCHAdRAoCOMBINING SHORT HIGH TONEjLOW TONEiRISING TONErLONG DESCENDING TO",
  "NEpHIGH TONEjLOW TONEiRISING TONEqNASALIZATION|r@ DOT<.NKO HIGH TONE APOSTROPHEuLOW TONE APOST",
  "ROPHE.NKO_ OO DENNENjGBAKURUNENrCOMMAfEXCLAMATION|qLAJANYALAN(7FD)kDANTAYALANjOROME;lTAMAN;.SA",
  "MARITAN$ALAFeBITdGAMANfDALATfIYcBAAdZENdITcTITdYUTdKAAFeLABATfMIMdNUNdSINGAAThINcFIcTSAADIYhQU",
  "FdRISHeSHANeTAAFlMARK INa-ALAFhOCCLUSIONjDAGESHkODIFIER$EPENTHETIC YUT.SAMARITAN| EPENTHETIC Y",
  "UTtVOWEL; LONG EgEbOVERLONG AAlLONG AAhAAcOVERLONG AkLONG AgAmMODIFIER$SHORT AxVOWEL; SHORT Ah",
  "LONG UgUmMODIFIER$IrVOWEL; LONG IgIbObSUKUNqMARK NEQUDAA(830)mPUNCTUATION NEQUDAAhAFSAAQfNGEDf",
  "BAUdATMAAUgSHIYYAALAAwABBREVIATION|rPUNCTUATION MELODIC QITSAnZIQAAfQITSAfZAEFeTURUeARKAANUhSO",
  "F MASHFAATmANNAAU(840).MANDAIC$HALQAfABbGbDbHcUSHENNAhAZcITcATTcKSAcbLbMbNbScINcAPbSZcQbRbSHcT",
  "cDUSHENNAiKADdAINkAFFRICATION|qVOCALIZATION|rGEMINATION|(85E)pPUNCTUATION(860).SYRIAC$MALAYALA",
  "M NGAdJAcNYAdTTAdNNAbNAeBHAdRAcLLAbLAeSSA(870).ARABIC$ALEF%ATTACHED FATHAfTOP * FATHAy* MIDDL",
  "E STROKEt> MIDDLE STROKEsATTACHED KASRAfBOTTOM * KASRAsROUND DOT<oIGHT ROUND DOTp> ROUND DOToR",
  "OUND DOT=yDOT<jATTACHED TOP * FATHA+DOT<.ARABIC$ALEF%* MIDDLE STROKE+DOT<.ARABIC$ALEF%ATTACHE",
  "D BOTTOM * KASRA+DOT<.ARABIC$ALEF%ATTACHED TOP * FATHA+> RING.ARABIC$ALEF%* MIDDLE STROKE+> RI",
  "NG.ARABIC$ALEF%ATTACHED BOTTOM * KASRA+> RING.ARABIC$ALEF%ATTACHED * HAMZAl> HAMZA.ARABIC TATW",
  "EEL%OVERSTRUCK HAMZAfWAWoTWO DOTS=.ARABIC$THIN YEHpBASELINE ROUND DOTsRAISED ROUND DOT.ARABIC$",
  "NOON%INVERTED SMALL V.ARABIC$HAH%INVERTED SMALL V=.ARABIC$TAH%DOT=jTHREE DOTS=zKEHEH%TWO DOT",
  "S VERTICALLY=.ARABIC ,TAIL(890)nPOUND|<pIASTRE|<(898)sSMALL HIGH WORD AL-JUZqLOW WORD ISHMAAMg",
  "MAALAgTASHEELwMADDA WAAJIBmSUPERSCRIPT ALEF MOKHASSAS.ARABIC @D MADDAnHALF MADDA OVER MADDA.AR",
  "ABIC$BEH%SMALL V=nHAMZA<uJEEM%TWO DOTS<yTAH%TWO DOTS<xFEH%DOT=+THREE DOTS<.ARABIC$QAF%DOT=sLAM",
  "%@ BARtMEEM%THREE DOTS<.ARABIC$YEH%TWO DOTS=+HAMZA<lDOT<.ARABIC$REH%LOOPnWAW%DOT WITHINtROHING",
  "YA YEHmLOW ALEFiDAL%THREE DOTS=zSAD%THREE DOTS=zGAF%INVERTED STROKEySTRAIGHT WAWmZAIN%INVERTE",
  "D V<.ARABIC$AIN%THREE DOTS=zKAF%DOT=sQAF%DOT=+NO DOTS<.ARABIC$BEH%SMALL MEEM<zPEH%SMALL MEEM<z",
  "TEH%SMALL TEH<yREH%SMALL NOON<zYEH%TWO DOTS=+SMALL NOON<.ARABIC$AFRICAN FEHdQAFdNOONmPEH%SMAL",
  "L VqTEH%SMALL VpTEH%SMALL VqCHEH%SMALL VsKEHEH%SMALL VsGHAIN%THREE DOTS<.ARABIC$AFRICAN QAF%TH",
  "REE DOTS<.ARABIC$JEEM%THREE DOTS<fBELOW.ARABIC$LAM%SMALL ARABIC$TAH<.ARABIC$GRAFlSMALL FARSI Y",
  "EHjHIGH FARSI YEHjYEH BARREE%TWO DOTS=.ARABIC SMALL HIGH WORD SAHiZAHoLARGE ROUND DOT<fBELOWvS",
  "UKUN=lLARGE CIRCLE=mROUND DOT INSIDE CIRCLE=.ARABIC SMALL LOW WAWhHIGH WORD AR-RUBlSADdAINdQAF",
  "dNOON%KASRAuLOW NOON%KASRAtHIGH WORD ATH-THALATHAlS-SAJDAhN-NISFhSAKTAfQIFdWAQFAkFOOTNOTE|ERpS",
  "IGN SAFHAvDISPUTED END OF AYAHuTURNED DAMMA=sCURLY FATHAfDAMMAfKASRAfFATHATANiDAMMATANiKASRATA",
  "NoTONE ONE DOT<nTWO DOTS<oLOOP<kONE DOT=nTWO DOTS=oLOOP=pOPEN FATHATANiDAMMATANiKASRATANnSMAL",
  "L HIGH WAWoFATHA%RINGeDOT<uKASRA%DOT=u>:HEAD<u*:HEAD<v>:HEAD=u*:HEAD=v@ *:HEAD<a%DOT.ARABIC *:",
  "HEAD<%DOT.ARABIC DAMMA%DOToMARK SIDEWAYS NOON GHUNNA.DEVANAGARI; INVERTED CANDRABINDUuCANDRABI",
  "NDUlANUSVARAiVISARGAmLETTER SHORT AhAaAcIaIcUaUcVOCALIC RbLjCANDRA EiSHORT EhEbAIcCANDRA OiSHO",
  "RT OhObAUcKAbHAdGAbHAdNGAdCAbHAdJAbHAdNYAdTTAbHAeDDAbHAeNNAdTAbHAdDAbHAdNAbNNAePAbHAdBAbHAdMAc",
  "YAcRAbRAdLAbLAbLAeVAcSHAcSAcAcHAjVOWEL; OEbOEoSIGN NUKTAfAVAGRAHAnVOWEL; AAcIaIcUaUcVOCALIC Ra",
  "RkCANDRA EiSHORT EhEbAIcCANDRA OiSHORT OhObAUnSIGN VIRAMAlVOWEL; PRISHTHAMATRA EpAWnOMcSTRESS",
  "; UDATTAgANUDATTAuGRAVE ACCENTmACUTE ACCENTmVOWEL; CANDRA LONG EnUEbUEoLETTER QAcKHHAeGHHAeZAc",
  "DDDHAfRHAdFAcYYAdVOCALIC RRcLLrVOWEL; VOCALIC LaLvDANDAeOUBLE DANDAlIGIT ZEROeONEdTWOcHREEfFOU",
  "RdIVEeSIXcEVENfEIGHTfNINEkABBREVIATION;rSIGN HIGH SPACING DOTvLETTER CANDRA AiOEbOEdAWcUEbUEdM",
  "ARWARI DDAlZHAdHEAVY YAiGGAdJJAdGLOTTAL STOPmDDDAeBBA.BENGALI ANJIeSIGN CANDRABINDUlANUSVARAiV",
  "ISARGA(985)mLETTER AaAcIaIcUaUcVOCALIC RbL(98F)jEbAI(993)cObAUcKAbHAdGAbHAdNGAdCAbHAdJAbHAdNYA",
  "dTTAbHAeDDAbHAeNNAdTAbHAdDAbHAdNA(9AA)cPAbHAdBAbHAdMAcYAcRA(9B2)cLA(9B6)cSHAcSAcAcHA(9BC)jSIG",
  "N NUKTAfAVAGRAHAnVOWEL; AAcIaIcUaUcVOCALIC RaR(9C7)kEbAI(9CB)cObAUnSIGN VIRAMAlLETTER KHANDA T",
  "A(9D7)qAU LENGTH|(9DC)oLETTER RRAcHA(9DF)dYYAdVOCALIC RRcLLrVOWEL; VOCALIC LaL(9E6)vDIGIT ZERO",
  "eONEdTWOcHREEfFOURdIVEeSIXcEVENfEIGHTfNINEkLETTER RA%MIDDLE DIAGONALpLOWER DIAGONAL.BENGALI RU",
  "PEE|eSIGNkCURRENCY NUMERATOR ONEdTWOcHREEfFOUReONE LESS THAN THE DENOMINATOR.BENGALI CURRENC",
  "Y DENOMINATOR SIXTEEN.BENGALI ISSHARgGANDA|kLETTER VEDIC ANUSVARAvABBREVIATION;rSANDHI|(A01).G",
  "URMUKHI; ADAK BINDIkBINDIfVISARGA(A05)mLETTER AaAcIaIcUaU(A0F)cEEcAI(A13)cOOcAUcKAbHAdGAbHAdNG",
  "AdCAbHAdJAbHAdNYAdTTAbHAeDDAbHAeNNAdTAbHAdDAbHAdNA(A2A)cPAbHAdBAbHAdMAcYAcRA(A32)cLAbLA(A35)dV",
  "AcSHA(A38)cAcHA(A3C)jSIGN NUKTA(A3E)kVOWEL; AAcIaIcUaU(A47)cEEcAI(A4B)cOOcAUnSIGN VIRAMA(A51)g",
  "UDAAT(A59)kLETTER KHHAeGHHAeZAcRRA(A5E)dFA(A66)jDIGIT ZEROeONEdTWOcHREEfFOURdIVEeSIXcEVENfEIGH",
  "TfNINEkTIPPIfADDAKfIRIdURAdEK ONKARiSIGN YAKASHlABBREVIATION;(A81)yJARATI; CANDRABINDUlANUSVAR",
  "AiVISARGA(A85)mLETTER AaAcIaIcUaUcVOCALIC RbLqVOWEL CANDRA E(A8F)oLETTER EbAIjVOWEL CANDRA O(A",
  "93)oLETTER ObAUcKAbHAdGAbHAdNGAdCAbHAdJAbHAdNYAdTTAbHAeDDAbHAeNNAdTAbHAdDAbHAdNA(AAA)cPAbHAdBA",
  "bHAdMAcYAcRA(AB2)cLAbLA(AB5)dVAcSHAcSAcAcHA(ABC)jSIGN NUKTAfAVAGRAHAnVOWEL; AAcIaIcUaUcVOCALI",
  "C RaRkCANDRA E(AC7)iEbAIcCANDRA O(ACB)iObAUnSIGN VIRAMA(AD0)lOM(AE0)cLETTER VOCALIC RRcLLrVOWE",
  "L; VOCALIC LaL(AE6)vDIGIT ZEROeONEdTWOcHREEfFOURdIVEeSIXcEVENfEIGHTfNINEkABBREVIATION;rRUPEE;(",
  "AF9)kLETTER ZHAkSIGN SUKUNeHADDAgMADDAHgTHREE-DOT NUKTA<vCIRCLE NUKTA<sTWO-CIRCLE NUKTA<(B01).",
  "ORIYA; CANDRABINDUlANUSVARAiVISARGA(B05).ORIYA$AaAcIaIcUaUcVOCALIC RbL(B0F)jEbAI(B13)cObAUcKAb",
  "HAdGAbHAdNGAdCAbHAdJAbHAdNYAdTTAbHAeDDAbHAeNNAdTAbHAdDAbHAdNA(B2A)cPAbHAdBAbHAdMAcYAcRA(B32)cL",
  "AbLA(B35)dVAcSHAcSAcAcHA(B3C)jSIGN NUKTAfAVAGRAHAnVOWEL; AAcIaIcUaUcVOCALIC RaR(B47)kEbAI(B4B)",
  "cObAUnSIGN VIRAMA(B55)gOVERLINEnAI LENGTH|nU LENGTH|(B5C).ORIYA$RRAcHA(B5F)dYYAdVOCALIC RRcLLr",
  "VOWEL; VOCALIC LaL(B66)vDIGIT ZEROeONEdTWOcHREEfFOURdIVEeSIXcEVENfEIGHTfNINEkISSHAR.ORIYA$WAjF",
  "RACTION ONE QUARTERhHALFiTHREE QUARTERSoONE SIXTEENTHjEIGHTHkTHREE SIXTEENTHS(B82).TAMIL; ANUS",
  "VARAiVISARGA(B85).TAMIL$AaAcIaIcUaU(B8E)cEaEcAI(B92)cOaOcAUcKA(B99)cNGAdCA(B9C)cJA(B9E)cNYAdTT",
  "A(BA3)dNNAdTA(BA8)cNAbNNAePA(BAE)cMAcYAcRAbRAdLAbLAbLAeVAcSHAcSAcAcHA(BBE)jVOWEL; AAcIaIcUaU(B",
  "C6)cEaEcAI(BCA)cOaOcAUnSIGN VIRAMA(BD0)lOM(BD7)cAU LENGTH|(BE6)oDIGIT ZEROeONEdTWOcHREEfFOURdI",
  "VEeSIXcEVENfEIGHTfNINEkNUMBER TENdONE HUNDREDhTHOUSANDtDAY;iMONTH;kYEAR;jDEBIT;kCREDIT;lAS<;nR",
  "UPEE;kNUMBER;(C00)qELUGU; COMBINING CANDRABINDU<.TELUGU; CANDRABINDUlANUSVARAiVISARGAhCOMBININ",
  "G ANUSVARA<.TELUGU$AaAcIaIcUaUcVOCALIC RbL(C0E)jEaEcAI(C12)cOaOcAUcKAbHAdGAbHAdNGAdCAbHAdJAbHA",
  "dNYAdTTAbHAeDDAbHAeNNAdTAbHAdDAbHAdNA(C2A)cPAbHAdBAbHAdMAcYAcRAbRAdLAbLAbLAeVAcSHAcSAcAcHA(C3C",
  ")jSIGN NUKTAfAVAGRAHAnVOWEL; AAcIaIcUaUcVOCALIC RaR(C46)kEaEcAI(C4A)cOaOcAUnSIGN VIRAMA(C55)lL",
  "ENGTH|lAI LENGTH|(C58).TELUGU$TSAdDZAdRRRA(C5D)eNAKAARA POLLU(C60)nVOCALIC RRcLLrVOWEL; VOCALI",
  "C LaL(C66)vDIGIT ZEROeONEdTWOcHREEfFOURdIVEeSIXcEVENfEIGHTfNINE(C77)kSIGN SIDDHAMmFRACTION DIG",
  "IT ZERO FOR ODD POWERS OF FOUR.TELUGU FRACTION DIGIT ONE FOR ODD POWERS OF FOUR.TELUGU FRACTIO",
  "N DIGIT TWO FOR ODD POWERS OF FOURzHREE FOR ODD POWERS OF FOUR.TELUGU FRACTION DIGIT ONE FOR E",
  "VEN POWERS OF FOUR.TELUGU FRACTION DIGIT TWO FOR EVEN POWERS OF FOUR.TELUGU FRACTION DIGIT THR",
  "EE FOR EVEN POWERS OF FOUR.TELUGU; TUUMU.KANNADA; SPACING CANDRABINDUtCANDRABINDUlANUSVARAiVIS",
  "ARGAhSIDDHAMmLETTER AaAcIaIcUaUcVOCALIC RbL(C8E)jEaEcAI(C92)cOaOcAUcKAbHAdGAbHAdNGAdCAbHAdJAbH",
  "AdNYAdTTAbHAeDDAbHAeNNAdTAbHAdDAbHAdNA(CAA)cPAbHAdBAbHAdMAcYAcRAbRAdLAbLA(CB5)dVAcSHAcSAcAcHA(",
  "CBC)jSIGN NUKTAfAVAGRAHAnVOWEL; AAcIaIcUaUcVOCALIC RaR(CC6)kEaEcAI(CCA)cOaOcAUnSIGN VIRAMA(CD5",
  ")lLENGTH|lAI LENGTH|(CDD)oLETTER NAKAARA POLLUnFA(CE0)cVOCALIC RRcLLrVOWEL; VOCALIC LaL(CE6)vD",
  "IGIT ZEROeONEdTWOcHREEfFOURdIVEeSIXcEVENfEIGHTfNINE(CF1)kSIGN JIHVAMULIYAlUPADHMANIYA(D00).MAL",
  "AYALAM; COMBINING ANUSVARA<xANDRABINDUlANUSVARAiVISARGAmLETTER VEDIC ANUSVARAoAaAcIaIcUaUcVOCA",
  "LIC RbL(D0E)jEaEcAI(D12)cOaOcAUcKAbHAdGAbHAdNGAdCAbHAdJAbHAdNYAdTTAbHAeDDAbHAeNNAdTAbHAdDAbHAd",
  "NAbNNAePAbHAdBAbHAdMAcYAcRAbRAdLAbLAbLAeVAcSHAcSAcAcHAcTTTAlSIGN ,BAR VIRAMAtCIRCULAR VIRAMApA",
  "VAGRAHAnVOWEL; AAcIaIcUaUcVOCALIC RaR(D46)kEaEcAI(D4A)cOaOcAUnSIGN VIRAMAlLETTER DOT REPHpSIG",
  "N PARA(D54)jLETTER CHILLU MbYbLLLrAU LENGTH|oFRACTION ONE ONE-HUNDRED-AND-SIXTIETHyFORTIETHmTH",
  "REE EIGHTIETHSqONE TWENTIETHiENTHjTHREE TWENTIETHSqONE FIFTHsLETTER ARCHAIC IIkVOCALIC RRcLLrV",
  "OWEL; VOCALIC LaL(D66)vDIGIT ZEROeONEdTWOcHREEfFOURdIVEeSIXcEVENfEIGHTfNINEkNUMBER TENdONE HUN",
  "DREDhTHOUSANDtFRACTION ONE QUARTERhHALFiTHREE QUARTERSoONE SIXTEENTHjEIGHTHkTHREE SIXTEENTHSzD",
  "ATE|jLETTER CHILLU NNbbRRcLaLcK(D81).SINHALA; CANDRABINDUlANUSVARAYAkVISARGAYA(D85)oLETTER AYA",
  "NNAfAYANNAgEYANNAfEYANNAiIYANNAfIYANNAhUYANNAfUYANNAhIRUYANNAfUYANNAiLUYANNAfUYANNAjEYANNAfEYA",
  "NNAhAIYANNAhOYANNAfOYANNAhAUYANNA(D9A)gLPAPRAANA KAYANNAsMAHAAPRAANA KAYANNAtALPAPRAANA GAYANN",
  "AsMAHAAPRAANA GAYANNAtKANTAJA NAASIKYAYAsSANYAKA GAYANNApALPAPRAANA CAYANNAsMAHAAPRAANA CAYANN",
  "AtALPAPRAANA JAYANNAsMAHAAPRAANA JAYANNAtTAALUJA NAASIKYAYAkSANYOOGA NAAKSIKYAYA.SINHALA$SANYA",
  "KA JAYANNApALPAPRAANA TTAYANNAtMAHAAPRAANA TTAYANNAuALPAPRAANA DDAYANNAtMAHAAPRAANA DDAYANNAtU",
  "URDHAJA NAYANNArSANYAKA DDAYANNAqALPAPRAANA TAYANNAsMAHAAPRAANA TAYANNAtALPAPRAANA DAYANNAsMAH",
  "AAPRAANA DAYANNAtDANTAJA NAYANNA(DB3)pSANYAKA DAYANNApALPAPRAANA PAYANNAsMAHAAPRAANA PAYANNAtA",
  "LPAPRAANA BAYANNAsMAHAAPRAANA BAYANNArYANNAhAMBA BAYANNAmYAYANNAhRAYANNA(DBD)hDANTAJA LAYANNA(",
  "DC0)pVAYANNAhTAALUJA SAYANNApMUURDHAJA SAYANNArDANTAJA SAYANNApHAYANNAhMUURDHAJA LAYANNArFAYAN",
  "NA(DCA)oSIGN AL-LAKUNA(DCF)oVOWEL; AELA-PILLAkKETTI AEDA-PILLAqDIGA AEDA-PILLApKETTI IS-PILLAo",
  "DIGA IS-PILLAnKETTI PAA-PILLA(DD6)pDIGA PAA-PILLA(DD8)oGAETTA-PILLAmKOMBUVAhDIGA KOMBUVAmKOMB",
  "U DEKAfVA HAA AELA-PILLAkDIGA AELA-PILLApGAYANUKITTAxGAYANUKITTA(DE6)wLITH DIGIT ZEROeONEdTWOc",
  "HREEfFOURdIVEeSIXcEVENfEIGHTfNINE(DF2)pVOWEL; DIGA GAETTA-PILLAkYANUKITTA.SINHALA PUNCTUATIO",
  "N KUNDDALIYA(E01).THAI CHARACTER KO KAIfHO KHAIcUATdWAIdONeRAKHANGlNGO NGUhCHO CHANcINGdANGjS",
  "O SOfCHO CHOEiYO YINGhDO CHADAiTO PATAKhHO THANeNANGMONTHOkPHUTHAOlNO NENgDO DEKgTO TAOfHO THU",
  "NGdAHANeONGjNO NUfBO BAIMAIjPO PLAfHO PHUNGjFO FAfPHO PHANiFO FANgPHO SAMPHAOlMO MAfYO YAKgR",
  "O RUAfUcLO LINGgUcWO WAENhSO SALAeRUSIeSUAgHO HIPgLO CHULAiO ANGfHO NOKHUKjPAIYANNOIjSARA AgMA",
  "I HAN-AKATmSARA AAbMcIaIcUEaEcaUhPHINTHU(E3F)qURRENCY_ BAHTtHARACTER SARA EbAEcObAI MAIMUANdAL",
  "AIqLAKKHANGYAOlMAIYAMOKfTAIKHUg EKcTHOcRIdCHATTAWAmTHANTHAKHATlNIKHAHITiYAMAKKANiFONGMANrDIGI",
  "T ZEROeONEdTWOcHREEfFOURdIVEeSIXcEVENfEIGHTfNINEkCHARACTER ANGKHANKHUkKHOMUT(E81).LAO$KObHO SU",
  "NG(E84)eTAM(E86)hPALI GHAiNGOdCOcPALI CHAiSO TAM(E8C)gPALI JHAiNYOdPALI NYAdTTAbHAeDDAbHAeNNAi",
  "DOcTObHO SUNGeTAMhPALI DHAiNOcBOcPObHO SUNGiFO TAMgPHO TAMhFO SUNGhPALI BHAiMOcYOcLO LING(EA5)",
  "dOOT(EA7)hWOcSANSKRIT SHAcSAlO SUNGhHO SUNGhPALI LLAiObHO TAMnELLIPSISiVOWEL; AbMAI KANhAAbMcI",
  "aIcYaYcUaU.LAO; PALI VIRAMAqVOWEL; MAI KONsSEMIVOWEL; LOcNYO(EC0)sVOWEL; EaIcObAYbI(EC6)nKO LA",
  "(EC8)fTONE MAI EKcTHOcIcCATAWApCANCELLATION|rNIGGAHITA(ED0)jDIGIT ZEROeONEdTWOcHREEfFOURdIVEeS",
  "IXcEVENfEIGHTfNINE(EDC)kHO NOcMO.LAO$KHMU GOcNYO(F00).TIBETAN SYLLABLE OMlMARK GTER YIG MGO TR",
  "UNCATED Al-UM RNAM BCAD MAmGTER TSHEG MA.TIBETAN| INITIAL YIG MGO MDUN MAxCLOSING YIG MGO SGA",
  "B MAwARET YIG MGO PHUR SHAD MA.TIBETAN| YIG MGO TSHEG SHAD MAvSBRUL SHADkBSKUR YIG MGOmKA- SHO",
  "G YIG MGOrINTERSYLLABIC TSHEGtDELIMITER TSHEG BSTARvSHADeNYIS SHADjTSHEG SHADkNYIS TSHEG SHADp",
  "RIN CHEN SPUNGS SHADtGYA GRAM SHADoCARET -DZUD RTAGS ME LONG CAN.TIBETAN| GTER TSHEGpLOGOTYPE",
  "; CHAD RTAGSkLHAG RTAGSyASTROLOGICAL; SGRA GCAN -CHAR RTAGSv-KHYUD PAjSDONG TSHUGS.TIBETAN; RD",
  "EL DKAR GCIGdNYISeSUMjNAG GCIGdNYISjDKAR RDEL NAGxDIGIT ZEROeONEdTWOcHREEfFOURdIVEeSIXcEVENfEI",
  "GHTfNINEeHALF ONEdTWOcHREEfFOURdIVEeSIXcEVENfEIGHTfNINEeZEROpMARK BSDUS RTAGSlNGAS BZUNG NYI Z",
  "LAsCARET -DZUD RTAGS BZHI MIG CAN.TIBETAN| NGAS BZUNG SGOR RTAGSvCHE MGOhTSA -PHRUjGUG RTAGS G",
  "YONcASoANG KHANG GYONcAStSIGN YAR TSHESjMAR TSHESoLETTER KAbHAdGAbHAdNGAdCAbHAdJA(F49)cNYAdTTA",
  "bHAeDDAbHAeNNAdTAbHAdDAbHAdNAcPAbHAdBAbHAdMAcTSAbHAeDZAbHAeWAcZHAcAc-AcYAcRAcLAcSHAcSAcAcHAcAb",
  "KSSAeFIXED-FORM RAnKKAdRRA(F71)kVOWEL; AAcIaIcUaUcVOCALIC RaRcLaLkEaEcOaOnSIGN RJES SU NGA ROn",
  "NAM BCADoVOWEL; REVERSED IaIwSIGN NYI ZLA NAA DAoSNA LDANnMARK HALANTAhPALUTAlSIGN LCI RTAGSjY",
  "ANG RTAGSkLCE TSA CANlMCHU CANiGRU CAN RGYINGSlMED RGYINGSpINVERTED MCHU CANvUBJOINED; LCE TS",
  "A CANlMCHU CANiINVERTED MCHU CANwLETTER KAbHAdGAbHAdNGAdCAbHAdJA(F99)cNYAdTTAbHAeDDAbHAeNNAdTA",
  "bHAdDAbHAdNAcPAbHAdBAbHAdMAcTSAbHAeDZAbHAeWAcZHAcAc-AcYAcRAcLAcSHAcSAcAcHAcAbKSSAeFIXED-FORM W",
  "AcYAcRA(FBE).TIBETAN KU RU KHAa BZHI MIG CANwCANTILLATION; HEAVY BEATkLIGHT BEATkCANG TE-UjSBU",
  "B -CHAL.TIBETAN_ DRIL BUhRDO RJEhPADMA GDANkRDO RJE RGYA GRAMrPHUR PAhNOR BUa NYIS -KHYILlGSU",
  "M -KHYILlBZHI -KHYIL(FCE)yIGN RDEL NAG RDEL DKARjGSUMsMARK BSKA- SHOG GI MGO RGYANxMNYAM YIG G",
  "I MGO RGYANwNYIS TSHEGkINITIAL BRDA RNYING YIG MGO MDUN MA.TIBETAN| CLOSING BRDA RNYING YIG MG",
  "O SGAB MA.*-FACING SVASTI;.>-FACING SVASTI;.*-FACING SVASTI;%DOTS.>-FACING SVASTI;%DOTS.TIBETA",
  "N| LEADING MCHAN RTAGStTRAILING MCHAN RTAGS(1000).MYANMAR$KAbHAdGAbHAdNGAdCAbHAdJAbHAdNYAcNYAe",
  "TTAbHAeDDAbHAeNNAdTAbHAdDAbHAdNAcPAbHAdBAbHAdMAcYAcRAcLAcWAcSAcHAcLLAdAbSHAN AgIaIcUaUcEbMON E",
  "fObAUjVOWEL; TALL AAhAAcIaIcUaUcEbAIcMON IIcOfE<sSIGN ANUSVARAiDOT=jVISARGAfRAMAgASATjCONSONAN",
  "T; MEDIAL YAcRAcWAcHAyLETTER GREAT SApDIGIT ZEROeONEdTWOcHREEfFOURdIVEeSIXcEVENfEIGHTfNINEkSIG",
  "N LITTLE SECTIONoSECTIONlYMBOL LOCATIVEiCOMPLETEDjAFOREMENTIONEDoGENITIVEpLETTER SHAcSAdVOCALI",
  "C RaRcLaLrVOWEL; VOCALIC RaRcLaLvLETTER MON NGAdJHAdBBAbEoCONSONANT; MON MEDIAL NAcMAcLA.MYANM",
  "AR$SGAW KAREN SHAvVOWEL; SGAW KAREN EUyTONE| SGAW KAREN HATHIfKE PHO.MYANMAR$WESTERN PWO KARE",
  "N THAdPWA.MYANMAR VOWEL; WESTERN PWO KAREN EUcUE.MYANMAR; WESTERN PWO KAREN TONE-1b2b3b4b5.MYA",
  "NMAR$EASTERN PWO KAREN NNAdYWAdGHWA.MYANMAR VOWEL; GEBA KAREN ImKAYAH OEcUbEEtLETTER SHAN KAbH",
  "AdGAcCAcZAcNYAdDAcNAcPHAdFAcBAcTHAdHAoCONSONANT; SHAN MEDIAL WA.MYANMAR VOWEL; SHAN AAcEa<hFIN",
  "AL YxSIGN SHAN TONE-2b3b5b6gCOUNCIL TONE-2b3gEMPHATIC TONE.MYANMAR$RUMAI PALAUNG FAxSIGN RUMA",
  "I PALAUNG TONE-5yHAN DIGIT ZEROeONEdTWOcHREEfFOURdIVEeSIXcEVENfEIGHTfNINEoIGN KHAMTI TONE-1b3s",
  "VOWEL; AITON AaItSYMBOL SHAN ONEdEXCLAMATION.GEORGIAN CAPITAL$ANcBANdGANdDONdENcVINdZENdTANdIN",
  "cKANdLASdMANdNARdONcPARdZHAReRAEdSANdTARdUNcPHAReKHAReGHANeQARdSHINeCHINdANdJILdCILcHAReXANdJH",
  "ANeHAEcEbIEdWEcHARcOE(10C7)dYN(10CD)cAEN(10D0)sLETTER ANcBANdGANdDONdENcVINdZENdTANdINcKANdLAS",
  "dMANdNARdONcPARdZHAReRAEdSANdTARdUNcPHAReKHAReGHANeQARdSHINeCHINdANdJILdCILcHAReXANdJHANeHAEcE",
  "bIEdWEcHARcOEdFIcYNcELIFIfTURNED GANkAINkPARAGRAPH SEPARATOR.MODIFIER$GEORGIAN NAR.GEORGIAN$AE",
  "NdHARD;jLABIAL;.HANGUL CHOSEONG KIYEOKgSSANGKIYEOKlNIEUNfTIKEUTgSSANGTIKEUTlRIEULfMIEUMfPIEUPf",
  "SSANGPIEUPjIOSdSANGSIOSjIEUNGfCIEUCfSSANGCIEUCkCHIEUCHhKHIEUKHhTHIEUTHhPHIEUPHhHIEUHfNIEUN-KIY",
  "EOKmSSANGNIEUNkNIEUN-TIKEUTgPIEUPlTIKEUT-KIYEOKnRIEUL-NIEUNlSSANGRIEULkRIEUL-HIEUHlKAPYEOUNRIE",
  "ULnMIEUM-PIEUPlKAPYEOUNMIEUMnPIEUP-KIYEOKgNIEUNfTIKEUTgSIOSa-KIYEOKgTIKEUTgPIEUPjSANGSIOSiIOS-",
  "CIEUCkCIEUCeHIEUCHhTHIEUTHhPHIEUPHnKAPYEOUNPIEUPfSSANGPIEUPsSIOS-KIYEOKgNIEUNfTIKEUTgRIEULfMIE",
  "UMfPIEUPa-KIYEOKmSSANGSIOSjIEUNGfCIEUCeHIEUCHhKHIEUKHhTHIEUTHhPHIEUPHhHIEUHkCHITUEUMSIOSdSANGS",
  "IOSqEONGCHIEUMSIOSdSANGSIOSuPANSIOShIEUNG-KIYEOKgTIKEUTgMIEUMfPIEUPfSIOSePANSIOSnSSANGIEUNGkIE",
  "UNG-CIEUCeHIEUCHhTHIEUTHhPHIEUPHnYESIEUNGiCIEUC-IEUNGkHITUEUMCIEUCfSSANGCIEUCrEONGCHIEUMCIEUCf",
  "SSANGCIEUCuHIEUCH-KHIEUKHhHIEUHkTUEUMCHIEUCHoEONGCHIEUMCHIEUCHsPHIEUPH-PIEUPnKAPYEOUNPHIEUPHpS",
  "SANGHIEUHkYEORINHIEUHlKIYEOK-TIKEUTnNIEUN-SIOSeCIEUCfHIEUHlTIKEUT-RIEULmFILLERpJUNGSEONG FILLE",
  "RgAaEcYAaEdEObbYEObcObWAaEdOEcYOcUbWEObbIcYUcEUcYIcIbA-ObUdYA-ObYOfEO-ObUbEUfYEO-ObUfO-EObbYEc",
  "ObUdYO-YAaEcEOdObIeU-AaEcEO-EUfYEcUdYU-AbEObbYEObcUbIeEU-UbEUfYI-UeI-AbYAcObUbEUcARAEAhARAEAa-",
  "EOcUbIhSSANGARAEAkA-EUeYA-UdEO-YAgO-YAaEoONGSEONG KIYEOKgSSANGKIYEOKlKIYEOK-SIOSlNIEUNa-CIEUCf",
  "HIEUHlTIKEUTgRIEULa-KIYEOKgMIEUMfPIEUPfSIOSeTHIEUTHhPHIEUPHhHIEUHlMIEUMfPIEUPa-SIOSkSIOSdSANGS",
  "IOSjIEUNGfCIEUCeHIEUCHhKHIEUKHhTHIEUTHhPHIEUPHhHIEUHfKIYEOK-RIEULfSIOS-KIYEOKsNIEUN-KIYEOKgTIK",
  "EUTgSIOSePANSIOShTHIEUTHnTIKEUT-KIYEOKgRIEULmRIEUL-KIYEOK-SIOSlNIEUNfTIKEUTa-HIEUHsSSANGRIEULk",
  "RIEUL-MIEUM-KIYEOKgSIOSkPIEUP-SIOSeHIEUHlKAPYEOUNPIEUPnSSANGSIOSjPANSIOShKHIEUKHhYEORINHIEUHrM",
  "IEUM-KIYEOKgRIEULfPIEUPfSIOSdSANGSIOSjPANSIOShCHIEUCHhHIEUHlKAPYEOUNMIEUMnPIEUP-RIEULfPHIEUPHh",
  "HIEUHlKAPYEOUNPIEUPnSIOS-KIYEOKgTIKEUTgRIEULfPIEUPkPANSIOShIEUNG-KIYEOKgSSANGKIYEOKrSSANGIEUNG",
  "kIEUNG-KHIEUKHnYESIEUNGa-SIOSePANSIOSqPHIEUPH-PIEUPnKAPYEOUNPHIEUPHpHIEUH-NIEUNfRIEULfMIEUMfPI",
  "EUPlYEORINHIEUHlKIYEOK-NIEUNfPIEUPfCHIEUCHhKHIEUKHhHIEUHmSSANGNIEUN.ETHIOPIC SYLLABLE HAbUbIbA",
  "AcEEbbOaAdLAbUbIbAAcEEbbObWAdHHAbUbIbAAcEEbbObWAeMAbUbIbAAcEEbbObWAdSZAbUbIbAAcEEbbObWAeRAbUbI",
  "bAAcEEbbObWAdSAbUbIbAAcEEbbObWAcHAbUbIbAAcEEbbObWAeQAbUbIbAAcEEbbOaAcWA(124A)bIbAAcEEb(1250)cH",
  "AbUbIbAAcEEbbO(1258)bWA(125A)bIbAAcEEb(1260)eBAbUbIbAAcEEbbObWAdVAbUbIbAAcEEbbObWAdTAbUbIbAAcE",
  "EbbObWAdCAbUbIbAAcEEbbObWAdXAbUbIbAAcEEbbOaAcWA(128A)bIbAAcEEb(1290)dNAbUbIbAAcEEbbObWAcYAbUbI",
  "bAAcEEbbObWAeGLOTTAL AbUbIbAAcEEbbObWAkKAbUbIbAAcEEbbOaAcWA(12B2)bIbAAcEEb(12B8)cXAbUbIbAAcEEb",
  "bO(12C0)bWA(12C2)bIbAAcEEb(12C8)eWAbUbIbAAcEEbbOaAdPHARYNGEAL AbUbIbAAcEEbbO(12D8)mZAbUbIbAAcE",
  "EbbObWAcHAbUbIbAAcEEbbObWAeYAbUbIbAAcEEbbOaAdDAbUbIbAAcEEbbObWAcDAbUbIbAAcEEbbObWAeJAbUbIbAAcE",
  "EbbObWAdGAbUbIbAAcEEbbOaAcWA(1312)bIbAAcEEb(1318)cGAbUbIbAAcEEbbObWAAfTHAbUbIbAAcEEbbObWAeCHAb",
  "UbIbAAcEEbbObWAePHAbUbIbAAcEEbbObWAeTSAbUbIbAAcEEbbObWAdZAbUbIbAAcEEbbOaAeFAbUbIbAAcEEbbObWAdP",
  "AbUbIbAAcEEbbObWAdRYAdMYAdFYA(135D)mCOMBINING GEMINATION+VOWEL LENGTH|.ETHIOPIC COMBINING VOWE",
  "L LENGTH|rGEMINATION|zSECTION|mWORDSPACEjFULL STOPjCOMMAfSEMICOLONjCOLONfPREFACE COLONnQUESTIO",
  "N|nPARAGRAPH SEPARATORtDIGIT ONEdTWOcHREEfFOURdIVEeSIXcEVENfEIGHTfNINEkNUMBER TENcWENTYfHIRTYg",
  "FORTYeIFTYfSIXTYeEVENTYhEIGHTYgNINETYgHUNDREDhTEN THOUSAND(1380)tSYLLABLE SEBATBEIT MWAnMWIbEE",
  "bdSEBATBEIT BWAnBWIbEEbdSEBATBEIT FWAnFWIbEEbdSEBATBEIT PWAnPWIbEEbmTONAL| YIZETfDERETfRIKRIKg",
  "SHORT RIKRIKmDIFATfKENATfCHIRETgHIDETfDERET-HIDETlKURT(13A0).CHEROKEE$AbEbIbObUbVbGAcKAcGEbIbO",
  "bUbVcHAbEbIbObUbVcLAbEbIbObUbVcMAbEbIbObUcNAcHNAdNAHcEbIbObUbVcQUAbEbIbObUbVdSAbaEbIbObUbVcDAc",
  "TAcDEcTEcDIcTIcDObUbVbLAdTLAbEbIbObUbVcSAbEbIbObUbVdWAbEbIbObUbVcYAbEbIbObUbVcMV(13F8)jSMALL$Y",
  "EbIbObUbVcMV(1400)xANADIAN SYLLABICS HYPHENgEbAAIdIaIcOaOcY-CREE OOjCARRIER EEcIjAaAcWEaST-CRE",
  "E WElIbEST-CREE WIlIIcEST-CREE WIImObEST-CREE WOlOOcEST-CREE WOOnNASKAPI WOOlWAbEST-CREE WAlAA",
  "cEST-CREE WAAnNASKAPI WAAlAIcY-CREE WiGLOTTAL STOPmFINAL ACUTEfGRAVEfBOTTOM HALF RINGqTOP HAL",
  "F RINGn* HALF RINGnNGe@ ACUTEfSHORT ,STROKES.CANADIAN SYLLABICS FINAL MIDDLE DOTkSHORT HORIZON",
  "TAL STROKExPLUSeDOWN TACKpENcINcONcANcPEbAAIdIaIcOaOdY-CREE POOkCARRIER HEEcIkPAaAcWEdWEST-CRE",
  "E PWEnPWIdWEST-CREE PWInPWIIeWEST-CREE PWIIoPWOdWEST-CREE PWOnPWOOeWEST-CREE PWOOoPWAdWEST-CRE",
  "E PWAnPWAAeWEST-CREE PWAAoY-CREE PWAAlPbWEST-CREE PlCARRIER HjTEbAAIdIaIcOaOdY-CREE TOOkCARRIE",
  "R DEEcIkTAaAcWEdWEST-CREE TWEnTWIdWEST-CREE TWInTWIIeWEST-CREE TWIIoTWOdWEST-CREE TWOnTWOOeWES",
  "T-CREE TWOOoTWAdWEST-CREE TWAnTWAAeWEST-CREE TWAAoNASKAPI TWAAmTaTEbIbObAdKEbAAIdIaIcOaOdY-CRE",
  "E KOOkKAaAcWEdWEST-CREE KWEnKWIdWEST-CREE KWInKWIIeWEST-CREE KWIIoKWOdWEST-CREE KWOnKWOOeWEST-",
  "CREE KWOOoKWAdWEST-CREE KWAnKWAAeWEST-CREE KWAAoNASKAPI KWAAmKaWcSOUTH-SLAVEY KEHcIHcOHcAHqCEb",
  "AAIdIaIcOaOdY-CREE COOkCAaAcWEdWEST-CREE CWEnCWIdWEST-CREE CWInCWIIeWEST-CREE CWIIoCWOdWEST-CR",
  "EE CWOnCWOOeWEST-CREE CWOOoCWAdWEST-CREE CWAnCWAAeWEST-CREE CWAAoNASKAPI CWAAmCbSAYISI THjMEbA",
  "AIdIaIcOaOdY-CREE MOOkMAaAcWEdWEST-CREE MWEnMWIdWEST-CREE MWInMWIIeWEST-CREE MWIIoMWOdWEST-CRE",
  "E MWOnMWOOeWEST-CREE MWOOoMWAdWEST-CREE MWAnMWAAeWEST-CREE MWAAoNASKAPI MWAAmMbWEST-CREE MlMHc",
  "ATHAPASCAN MmSAYISI MiNEbAAIdIaIcOaOdY-CREE NOOkNAaAcWEdWEST-CREE NWEnNWAdWEST-CREE NWAnNWAAeW",
  "EST-CREE NWAAoNASKAPI NWAAlbCARRIER NGkNHcLEbAAIdIaIcOaOdY-CREE LOOkLAaAcWEdWEST-CREE LWEnLWId",
  "WEST-CREE LWInLWIIeWEST-CREE LWIIoLWOdWEST-CREE LWOnLWOOeWEST-CREE LWOOoLWAdWEST-CREE LWAnLWAA",
  "eWEST-CREE LWAAoLbWEST-CREE LlMEDIAL LiSEbAAIdIaIcOaOdY-CREE SOOkSAaAcWEdWEST-CREE SWEnSWIdWES",
  "T-CREE SWInSWIIeWEST-CREE SWIIoSWOdWEST-CREE SWOnSWOOeWEST-CREE SWOOoSWAdWEST-CREE SWAnSWAAeWE",
  "ST-CREE SWAAoNASKAPI SWAAmSbATHAPASCAN SmSWc~FOOT SlMOOSE-CREE SKnNASKAPI SKWc-WcPWAdTWAdKWAdC",
  "WAmSHEbIaIcOaOcAaAcWEeWEST-CREE SHWEoSHWIeWEST-CREE SHWIoSHWIIfWEST-CREE SHWIIpSHWOeWEST-CRE",
  "E SHWOoSHWOOfWEST-CREE SHWOOpSHWAeWEST-CREE SHWAoSHWAAfWEST-CREE SHWAApSHcYEbAAIdIaIcOaOc-CRE",
  "E YOOjAaAcWEdWEST-CREE YWEnYWIdWEST-CREE YWInYWIIeWEST-CREE YWIIoYWOdWEST-CREE YWOnYWOOeWEST-C",
  "REE YWOOoYWAdWEST-CREE YWAnYWAAeWEST-CREE YWAAoNASKAPI YWAAmYbBIBLE-CREE YmWEST-CREE YlSAYIS",
  "I YIjREb-CREE REjWEST-CREE LEmRAAIdIaIcOaOdWEST-CREE LOmRAaAdWEST-CREE LAmRWAAeWEST-CREE RWAAo",
  "RbWEST-CREE RlMEDIAL RiFEbAAIdIaIcOaOcAaAcWAAeWEST-CREE FWAAoFbTHEdN-CREE THEkTHIdN-CREE THIkT",
  "HIIeN-CREE THIIlTHOaOcAaAcWAAfWEST-CREE THWAApTHbTHEbIbObAbcYEbIbObAdNUNAVIK HEbIaIcOaOcAaAceU",
  "T HjHKcQAAIdIaIcOaOcAaAcbTLHEbIbObAeWEST-CREE REbIbObAmNGAAIdIaIcOaOcAaAcbNGdSAYISI SHEbIbObAk",
  "WOODS-CREE THEbIbObAbnLHIaIcOaOcAaAccTH-CREE THEbIaIcOaOcAaAckAIVILIK Bj~FOOT EbIbObAbWEbIbObA",
  "cNEbIbObAcKEbIbObAmSAYISI HEbIbObAjCARRIER GHUbObEaEcIbAdRUbObEaEcIbAcWUbObEaEcIbAcHWUbObEaEcI",
  "bAdTHUbObEaEcIbAcTUbObEaEcIbAdPUbObEaEcIbAbbGUbObEaEcIbAcKHUbObEaEcIbAcKUbObEaEcIbAbcNUbObEaEc",
  "IbAcMUbObEaEcIbAcYUbObEaEcIbAcJUkSAYISI JUjCARRIER JObEaEcIkSAYISI JIjCARRIER JAbJUbObEaEcIbAd",
  "LUbObEaEcIbAcDLUbObEaEcIbAdLHUbObEaEcIbAdTLHUbObEaEcIbAcUbObEaEcIbAdZUbObEaEcIbAbbINITIAL ZjDZ",
  "UbObEaEcIbAdSUbObEaEcIbAbHUbObEaEcIbAbcTSUbObEaEcIbAdCHUbObEaEcIbAdTTSUbObEaEcIbAlHI;iFULL STO",
  "PjQAIdNGAIdNGIaIcOaOcAaAfWOODS-CREE THWEEcIaIcOaOcAaAfFINAL THt~FOOT W.OGHAM SPACE|.OGHAM$BEIT",
  "HfLUISeFEARNfSAILeNIONeUATHeDAIReTINNEfCOLLdEIRTfMUINeGORTeNGEADALhSTRAIFgRUISeAILMeONNdURcEAD",
  "HADHhIODHADHhEABHADHhORcUILLEANNiIFINeEAMHANCHOLLlPEITHmFEATHER|mREVERSED FEATHER|(16A0).RUNIC",
  "$FEHU FEOH FE FoVbURUZ UR UjYRbbWbTHURISAZ THURS THORNuETHdANSUZ AhOS OeAC AdESCeLONG-BRANCH-O",
  "SS OrSHORT-TWIG-OSS OqOaEbNcRAIDO RAD REID RqKAUNAfCENdKAUN KgGbENGdGEBO GYFU GkARdWUNJO WYN",
  "N WmHAGLAZ HgEGL HhLONG-BRANCH-HAGALL HuSHORT-TWIG-HAGALL HtNAUDIZ NYD NAUD NrSHORT-TWIG-NAU",
  "D NrDOTTED-NiISAZ IS ISS InEbJERAN JhGERdLONG-BRANCH-AR AErSHORT-TWIG-AR ApIWAZ EOHiPERTHO PEO",
  "RTH PpALGIZ EOLHXlSOWILO ShIGEL LONG-BRANCH-SOL SwHORT-TWIG-SOL SqCbZbTIWAZ TIR TYR TpSHORT-TW",
  "IG-TYR TqDbBERKANAN BEORC BJARKAN BySHORT-TWIG-BJARKAN BuDOTTED-PiOPEN-PgEHWAZ EH EkMANNAZ MA",
  "N MmLONG-BRANCH-MADR MsSHORT-TWIG-MADR MrLAUKAZ LAGU LOGR LsDOTTED-LiINGWAZddDAGAZ DAEG DmOTHA",
  "LAN ETHEL OpEARdIORdCWEORTHgALCdEALCfSTANeLONG-BRANCH-YRoSHORT-TWIG-YRnICELANDIC-YRmQbXiSINGL",
  "E PUNCTUATIONsMULTIPLE PUNCTUATIONuCROSS PUNCTUATIONrARLAUG_nTVIMADUR_pBELGTHOR_.RUNIC$KbSHcOO",
  "cFRANKS CASKET OScIScEHcACbESC(1700).TAGALOG$AbIbUbKAcGAcNGAdTAcDAcNAcPAcBAcMAcYAcRAcLAcWAcSAc",
  "HAjVOWEL; IbUmSIGN VIRAMAgPAMUDPOD(171F)nLETTER ARCHAIC RA.HANUNOO$AbIbUbKAcGAcNGAdTAcDAcNAcPA",
  "cBAcMAcYAcRAcLAcWAcSAcHAjVOWEL; IbUmSIGN PAMUDPOD.PHILIPPINE SINGLE PUNCTUATIONs@ PUNCTUATION(",
  "1740).BUHID$AbIbUbKAcGAcNGAdTAcDAcNAcPAcBAcMAcYAcRAcLAcWAcSAcHAjVOWEL; IbU(1760).TAGBANWA$AbIb",
  "UbKAcGAcNGAdTAcDAcNAcPAcBAcMAcYA(176E)cLAcWAcSA(1772)jVOWEL; IbU(1780).KHMER$KAbHAcObHOdNGOdCA",
  "bHAcObHOdNYOdDAcTTHAeDOcTTHOeNNOdTAbHAcObHOdNOcBAcPHAcObHOdMOcYOcROcLOcVOcSHAcSOcAcHAcLAcQAjIN",
  "DEPENDENT VOWEL QAQbAcIaIcUaKbUaVeRYaYdLYaYdQEbAIcOO TYPE ONEdTWOlAUvVOWEL INHERENT AQbAlSIG",
  "N AAcIaIcYaYcUaUbAcOEcYAcIEcEbAEbIcOOcAUnSIGN NIKAHIThREAHMUKhYUUKALEAPINTUnMUUSIKATOANlTRIISA",
  "PhBANTOCgROBATfTOANDAKHIATlKAKABAThAHSDAfSAMYOK SANNYAnVIRIAMgCOENGfBATHAMASATkKHANeBARIYOOSAN",
  "kCAMNUC PII KUUHpLEK TOOhBEYYALgPHNAEK MUANlKOOMUUTmCURRENCY_ RIELuSIGN AVAKRAHASANYAmTTHACAN(",
  "17E0)nDIGIT ZEROeONEdTWOcHREEfFOURdIVEeSIXcEVENfEIGHTfNINE(17F0).KHMER_ LEK ATTAK SONdMUOYePII",
  "dBEIcUONePRAMa-MUOYePIIdBEIcUON(1800).MONGOLIAN BIRGAfELLIPSISiCOMMAfFULL STOPjCOLONfFOUR DOTS",
  "jTODO SOFT HYPHENqSIBE SYLLABLE BOUNDARY|ER.MONGOLIAN MANCHU COMMAfFULL STOPqNIRUGUgFREE VARIA",
  "TION SELECTOR ONEdTWOcHREE.MONGOLIAN VOWEL SEPARATORpFREE VARIATION SELECTOR FOUR.MONGOLIAN DI",
  "GIT ZEROeONEdTWOcHREEfFOURdIVEeSIXcEVENfEIGHTfNINE(1820)kLETTER AbEbIbObUbOEcUEcEEcNAcANGdBAcP",
  "AcQAcGAcMAcLAcSAbHAdTAcDAcCHAdJAcYAcRAcWAcFAcKAbHAdTSAdZAcHAAdZRAdLHAdZHIdCHIdTODO LONG VOWEL;",
  "pEbIbObUbOEcUEcANGdBAcPAcQAcGAcMAcTAcDAcCHAdJAcTSAdYAcWAcKAcGAAdHAAdJIAdNIAdDZAiSIBE EbIaYcUEb",
  "bANGdKAcGAcHAcPAcSHAdTAcDAcJAcFAcGAAdHAAdTSAdZAcRAAdCHAdZHAiMANCHU IbKAcRAcFAcZHAkCHA%TWO DOTS",
  "(1880)rALI GALI ANUSVARA ONEmVISARGA ONElDAMARUgUBADAMAhINVERTED UBADAMAqBALUDAgTHREE BALUDAmA",
  "bIbKAcNGAdCAcTTAbHAeDDAdNNAdTAcDAcPAbHAdSSAdZHAcAcAHlTODO ALI GALI TAcZHArMANCHU ALI GALI GHAd",
  "NGAdCAcJHAdTTAdDDHAeTAcDHAdSSAdCYAdZHAcAsALI GALI HALF UbYAqMANCHU ALI GALI BHAtALI GALI DAGAL",
  "GAqMANCHU ALI GALI LHA(18B0).CANADIAN SYLLABICS OYcAYbAYdWAYdPOYcAYcWOYeTAYdKAYcWAYeMAYdNOYcAY",
  "dLAYdSOYcAYcHOYcAYcWOYfYOYcAYdRAYdNWIdOJIBWAY NWIlNWIIeOJIBWAY NWIImNWOdOJIBWAY NWOlNWOOeOJIBW",
  "AY NWOOmRWEEcIaIcOaOcAdOJIBWAY PbTbKbCbMbNbSaHkEASTERN WjWESTERN WjFINAL SMALL RINGkRAISED DOT",
  "qR-CREE RWEkWEST-CREE LOOcAAnTHWEbAdTHWEcOOcAAeLHWEcOOfSAYISI SHWEcOOeHOOkCARRIER GWUdDENE GEE",
  "iGAAcWAlSAYISI JUUkCARRIER JWAlBEAVER DENE LbRnCARRIER DENTAL S(1900).LIMBU VOWEL-CARRIER LETT",
  "ER.LIMBU$KAbHAdGAbHAdNGAdCAbHAdJAbHAdYANdTAbHAdDAbHAdNAcPAbHAdBAbHAdMAcYAcRAcLAcWAcSHAcSAcAcHA",
  "cGYANeTRA(1920)kVOWEL; AbIbUbEEcAIcOOcAUcEbOmSUBJOINED$YAcRAcWA(1930)sMALL$KAcNGAdANUSVARAiTAc",
  "NAcPAcMAcRAcLAoIGN MUKPHRENGjKEMPHRENGjSA-I(1940)eLOO(1944)iEXCLAMATION|qQUESTION|nDIGIT ZEROe",
  "ONEdTWOcHREEfFOURdIVEeSIXcEVENfEIGHTfNINE.TAI LE$KAcXAcNGAdTSAdSAcYAcTAbHAdLAcPAbHAdMAcFAcVAcH",
  "AcQAcKHAdTSHAeNAcAbIbEEbHcUbOObbUEcEbAUEcI(1970)cTONE-2b3b4b5b6(1980).NEW TAI LUE$HIGH QAhLO",
  "W QAgHIGH KAcXAcNGAiLOW KAcXAcNGAhHIGH TSAdSAcYAhLOW TSAdSAcYAgHIGH TAbHAdNAhLOW TAbHAdNAgHIG",
  "H PAbHAdMAhLOW PAbHAdMAgHIGH FAcVAcLAhLOW FAcVAcLAgHIGH HAcDAcBAhLOW HAcDAcBAgHIGH KVAdXVAiLO",
  "W KVAdXVAhHIGH SUAiLOW SUA(19B0)oVOWEL; VOWEL SHORTENERpAAcIIcUaUcEbAEcOaAcUEcAYbAYdUYcOYbAYdU",
  "EYdIYnLETTER FINAL VbNGbbMbKbDbBoTONE|-1b2(19D0)lDIGIT ZEROeONEdTWOcHREEfFOURdIVEeSIXcEVENfEIG",
  "HTfNINEkTHAM DIGIT ONE(19DE)oSIGN LAEaV.KHMER_ PATHAMASATkMUOY KOETjPII KOETiBEI KOEThUON KOET",
  "jPRAM KOETf-MUOY KOETjPII KOETiBEI KOEThUON KOEToDAP KOETf-MUOY KOETjPII KOETiBEI KOEThUON KOE",
  "TjPRAM KOETnTUTEYASATjMUOY ROCiPII ROChBEI ROCgUON ROCiPRAM ROCe-MUOY ROCiPII ROChBEI ROCgUO",
  "N ROCnDAP ROCe-MUOY ROCiPII ROChBEI ROCgUON ROCiPRAM ROC.BUGINESE$KAcGAcNGAbKAePAcBAcMAbPAdTAc",
  "DAcNAbRAdCAcJAcNYAbCAeYAcRAcLAcVAcSAcAbHAjVOWEL; IbUbEbObAE(1A1E)nPALLAWAhEND OF SECTION.TAI T",
  "HAM$HIGH KAbHAcXAiLOW KAbXAcHAhNGAdHIGH CAbHAiLOW CAcSAcCHAhNYAdRATAeHIGH RATHAkDAcLOW RATHAjR",
  "ANAeHIGH TAbHAiLOW TAbHAhNAcBAcHIGH PAbHAdFAhLOW PAcFAcPHAhMAcLOW YAgHIGH YAhRAbUEdLAbUEdWAcHI",
  "GH SHAcSAcAcHAhLLAdAbLOW HAgIaIcUaUcEEcOOcLAEdGREAT SApCONSONANT; MEDIAL RAcLAjLA TANG LAI.TA",
  "I THAM; MAI KANG LAIrCONSONANT; FINAL NGAjLOW PAgHIGH RATHA OR LOW PAuMAcBAcSA(1A60)rSIGN SAKO",
  "TkVOWEL; AbMAI SAThAAcTALL AAhIaIcUEbUEcaUcOaA=hYcEbAEcOOcAIcTHAM AIhOA<tSIGN MAI KANGiTONE-1b",
  "2gKHUEN TONE-3b4b5mRA HAAMhMAI SAMhKHUEN-LUE KARAN(1A7F)uCOMBINING CRYPTOGRAMMIC DOT.TAI THA",
  "M HORA DIGIT ZEROeONEdTWOcHREEfFOURdIVEeSIXcEVENfEIGHTfNINE(1A90)pTHAM DIGIT ZEROeONEdTWOcHREE",
  "fFOURdIVEeSIXcEVENfEIGHTfNINE(1AA0)pSIGN WIANGaWAAKjSAWANfKEOWeHOYdDOKMAIgREVERSED ROTATED RAN",
  "AvMAI YAMOKjKAANaKUUhSATKAANaKUUkHANGeCAANG(1AB0).COMBINING @D CIRCUMFLEX ACCENTyIAERESIS-RING",
  "oINFINITYiDOWNWARDS:pTRIPLE DOTkX-X=jWIGGLY LINE=rOPEN|=p@ OPEN|=wLIGHT CENTRALIZATION STROKE=",
  ".COMBINING STRONG CENTRALIZATION STROKE=.COMBINING PARENTHESES<r@ PARENTHESES<yPARENTHESES=fOV",
  "ERLAYtLATIN SMALL$W=hTURNED W=.COMBINING > PARENTHESIS< >.COMBINING * PARENTHESIS< *.COMBININ",
  "G > PARENTHESIS= >.COMBINING * PARENTHESIS= *.COMBINING SQUARE BRACKETS<vNUMBER;<rINVERTED @ A",
  "RCH<.COMBINING PLUS;<p@ PLUS;<fBELOWwTRIPLE ACUTE ACCENTtLATIN SMALL$INSULAR GbRbT(1B00).BALIN",
  "ESE; ULU RICEMfCANDRAkCECEKfSURANGgBISAHkLETTER AKARAa TEDUNGmIKARAa TEDUNGmUKARAa TEDUNGmRA R",
  "EPAa TEDUNGoLA LENGAa TEDUNGpEKARAfAIKARAgOKARAa TEDUNGmKAa MAHAPRANAmGAa GORAhNGAdCAa LACAhJA",
  "a JERAhNYAdTA LATIKfMURDA MAHAPRANAsDA MURDA ALPAPRANAjMAHAPRANAsNA RAMBATjTAa TAWAhDAa MADUhN",
  "AcPAa KAPALiBAa KEMBANGkMAcYAcRAcLAcWAcSA SAGAcPAfcHAjSIGN REREKANmVOWEL; TEDUNGgULUa SARIiSUK",
  "Ua ILUTjRA REPAa TEDUNGoLA LENGAa TEDUNGpTALINGa REPAeTEDUNGgREPA TEDUNGsPEPETa TEDUNGxADEG AD",
  "EGjLETTER KAF SASAKiHOT SASAKkTZIR SASAKkEF SASAKiVE SASAKiZAL SASAKjASYURA SASAKlRCHAIC JNYA(",
  "1B50)tDIGIT ZEROeONEdTWOcHREEfFOURdIVEeSIXcEVENfEIGHTfNINEkPANTIdMADAgWINDUfCARIK PAMUNGKAHjSI",
  "KIePARERENnPAMENENGiMUSICAL_ DONGdENGdUNGdANGa SURANGkINGdAENGeEUNGeAINGdNG GEDEjCOMBINING TEG",
  "EHfENDEPfKEMPULcLIgJEGOGANhKEMPUL%JEGOGANpLI%JEGOGANtBENDEfGONGo*-HAND OPEN DUGcAGiCLOSED TUKc",
  "AKv>-HAND OPEN PANGdUNGjCLOSED PLAKcUKlOPEN PING.BALINESE PANTI LANTANGlMADA LANTANG(1B80).SUN",
  "DANESE; PANYECEKfGLAYARfWISADoLETTER AbIbUbAEcObEaUcKAcQAcGAcNGAdCAcJAcZAcNYAdTAcDAcNAcPAcFAcV",
  "AcBAcMAcYAcRAcLAcWAcSAcXAcHAjCONSONANT; PAMINGKALhNYAKRAeIKUwVOWEL; PANGHULUfYUKUeAELAENGhOLON",
  "GgMEPETfNEULEUNGvSIGN PAMAAEHhVIRAMAlCONSONANT; PASANGAN MAcWA.SUNDANESE$KHAdSYAkDIGIT ZEROeON",
  "EdTWOcHREEfFOURdIVEeSIXcEVENfEIGHTfNINEkAVAGRAHAiLETTER REUdLEUdBHAdFINAL KbM.BATAK$AbSIMALUNG",
  "UN AmHAcSIMALUNGUN HAnMANDAILING HAnBAcKARO BAhPAcSIMALUNGUN PAnNAcMANDAILING NAnWAcSIMALUNGU",
  "N WAnPAKPAK WAjGAcSIMALUNGUN GAnJAcDAcRAcSIMALUNGUN RAnMAcSIMALUNGUN MAmOUTHERN TAlNORTHERN TA",
  "lSAbIMALUNGUN SAnMANDAILING SAnYAcSIMALUNGUN YAnNGAdLAcSIMALUNGUN LAnNYAdCAcNDAdMBAdIbUiSIGN T",
  "OMPIkVOWEL; EbPAKPAK EiEEcIbKARO IgObKARO OgUa FOR SIMALUNGUN SA.BATAK CONSONANT; NGcHqPANGOLA",
  "TfONGONAN(1BFC).BATAK_ BINDU NA METEKiPINARBORASkJUDULfPANGOLAT.LEPCHA$KAbLAcHAdGAbLAdNGAdCAbH",
  "AdJAcNYAdTAbHAdDAcNAcPAbLAcHAdFAbLAdBAbLAdMAbLAdTSAbHAeDZAdYAcRAcLAcHAbLAdVAcSAbHAdWAcAiSUBJOI",
  "NED$YAcRAtVOWEL; AAcIbOaOcUaUcEmCONSONANT; KbMbLbNbPbRbTbNYIN-DOhKANGtSIGN RANdNUKTA(1C3B)kPUN",
  "CTUATION TA-ROLgNYET THYOOM TA-ROLsCER-WAgTSHOOK CER-WAhsDIGIT ZEROeONEdTWOcHREEfFOURdIVEeSIXc",
  "EVENfEIGHTfNINE(1C4D).LEPCHA$TTAbHAeDDA.OL CHIKI DIGIT ZEROeONEdTWOcHREEfFOURdIVEeSIXcEVENfEIG",
  "HTfNINEkLETTER LAcATbGbNGcLcLAAdAAKbJbMbWdLIcISbHbNYcRcLUcUCbDbNNcYcLEcEPbDDcNbRRdLOcOTTcBbVbH",
  "jMU TTUDDAGkGAAHLAA TTUDDAAGqMU-GAAHLAA TTUDDAAGtRELAAfPHAARKAAiAHADePUNCTUATION MUCAADg@ MUCA",
  "AD.CYRILLIC SMALL$ROUNDED VEkLONG-LEGGED DEoNARROW OiWIDE EShTALL TEgHREE-LEGGED TEoALL HARD;j",
  "YATiUNBLENDED UK(1C90).GEORGIAN MTAVRULI CAPITAL$ANcBANdGANdDONdENcVINdZENdTANdINcKANdLASdMANd",
  "NARdONcPARdZHAReRAEdSANdTARdUNcPHAReKHAReGHANeQARdSHINeCHINdANdJILdCILcHAReXANdJHANeHAEcEbIEdW",
  "EcHARcOEdFIcYNcELIFIfTURNED GANkAIN(1CBD)cENdHARD;jLABIAL;.SUNDANESE PUNCTUATION BINDU SURYAfP",
  "ANGLONGhURNAMAhCAKRAfLEU SATANGAlKA SATANGAkDA SATANGAkBA SATANGA(1CD0).VEDIC TONE KARSHANAiSH",
  "ARAfPRENKHAmSIGN NIHSHVASAjYAJURVEDIC MIDLINE SVARITA.VEDIC TONE YAJURVEDIC AGGRAVATED INDEPEN",
  "DENT SVARITA.VEDIC TONE YAJURVEDIC INDEPENDENT SVARITAtKATHAKA INDEPENDENT SVARITA.VEDIC TON",
  "E CANDRA=mYAJURVEDIC KATHAKA INDEPENDENT SVARITA SCHROEDER.VEDIC TONE @ SVARITAoTRIPLE SVARITA",
  "oKATHAKA ANUDATTAqDOT=jTWO DOTS=nHREE DOTS=qRIGVEDIC KASHMIRI INDEPENDENT SVARITA.VEDIC TONE A",
  "THARVAVEDIC INDEPENDENT SVARITA.VEDIC; VISARGA SVARITAhUDATTAoREVERSED VISARGA UDATTAxVISARG",
  "A ANUDATTAqREVERSED VISARGA ANUDATTAzVISARGA UDATTA%TAILqANUDATTA%TAIL.VEDIC; ANUSVARA ANTARGO",
  "MUKHAmBAHIRGOMUKHAmVAMAGOMUKHAa%TAIL.VEDIC; TIRYAKgHEXIFORM LONG ANUSVARAwLONG ANUSVARAnRTHAN",
  "G LONG ANUSVARAuANUSVARA UBHAYATO MUKHAwRDHAVISARGAmROTATED ARDHAVISARGAzTONE CANDRA<rSIGN JIH",
  "VAMULIYAlUPADHMANIYAlATIKRAMAnTONE RING<k@ RING<wSIGN @ ANUSVARA ANTARGOMUKHA(1D00).LATIN$SMAL",
  "L CAPITAL AaExSMALL$TURNED AE.LATIN$SMALL CAPITAL BARRED BiCbDbETHcwSMALL$TURNED OPEN EgI.LATI",
  "N$SMALL CAPITAL JbKbL%STROKEnMbREVERSED NkOaPEN O.LATIN SMALL$SIDEWAYS OaPEN Of%STROKEwTURNE",
  "D OE.LATIN$SMALL CAPITAL OUxSMALL$TOP HALF OkBOTTOM HALF O.LATIN$SMALL CAPITAL PbREVERSED RkTU",
  "RNED RhbUwSMALL$SIDEWAYS UbDIAERESIZED UnTURNED M.LATIN$SMALL CAPITAL VbWbZbEZHrVOICED LARYNGE",
  "AL SPIRANTyAIN.GREEK$SMALL CAPITAL GAMMAfLAMDAfPIcRHOdPSI.CYRILLIC$SMALL CAPITAL EL.MODIFIER$C",
  "APITAL AaEcBaARRED BiDbEbREVERSED EkGbHbIbJbKbLbMbNbREVERSED NkOaUcPbRbTbUbWjSMALL AbTURNED Ai",
  "ALPHAfTURNED AEjBbDbEbSCHWAfOPEN EgTURNED OPEN EnGbTURNED IiKbMbENGdOaPEN OgTOP HALF OkBOTTO",
  "M HALF OnPbTbUbSIDEWAYS UkTURNED MiVbAINdBETAeGREEK GAMMAlDELTAfGREEK PHIjCHI.LATIN SUBSCRIP",
  "T SMALL$IbRbUbV.GREEK SUBSCRIPT SMALL$BETAeGAMMAfRHOdPHIdCHI.LATIN SMALL$UEcB%MIDDLE TILDEtD%M",
  "IDDLE TILDEtF%MIDDLE TILDEtM%MIDDLE TILDEtN%MIDDLE TILDEtP%MIDDLE TILDEtR%MIDDLE TILDEmFISHHOO",
  "K+MIDDLE TILDE.LATIN SMALL$S%MIDDLE TILDEtT%MIDDLE TILDEtZ%MIDDLE TILDEtTURNED G.MODIFIER$CYRI",
  "LLIC EN.LATIN SMALL$INSULAR GjTH%STRIKETHROUGH.LATIN SMALL CAPITAL$I%STROKE.LATIN SMALL$IOTA%S",
  "TROKEqP%STROKEuCAPITAL$U%STROKE.LATIN SMALL$UPSILON%STROKEtB%PALATAL HOOKtD%PALATAL HOOKtF%PAL",
  "ATAL HOOKtG%PALATAL HOOKtK%PALATAL HOOKtL%PALATAL HOOKtM%PALATAL HOOKtN%PALATAL HOOKtP%PALATA",
  "L HOOKtR%PALATAL HOOKtS%PALATAL HOOKtESH%PALATAL HOOKvV%PALATAL HOOKtX%PALATAL HOOKtZ%PALATA",
  "L HOOKtA%RETROFLEX HOOKuLPHA%RETROFLEX HOOKzD%HOOK+TAILuE%RETROFLEX HOOKvOPEN E%RETROFLEX HOOK",
  ".LATIN SMALL$REVERSED OPEN E%RETROFLEX HOOK.LATIN SMALL$SCHWA%RETROFLEX HOOKzI%RETROFLEX HOOKv",
  "OPEN O%RETROFLEX HOOK.LATIN SMALL$ESH%RETROFLEX HOOKxU%RETROFLEX HOOKvEZH%RETROFLEX HOOK.MODIF",
  "IER$SMALL TURNED ALPHAmCa%CURLlETHdREVERSED OPEN EpFbDOTLESS J%STROKEvSCRIPT GiTURNED HiI%STRO",
  "KEmOTAeCAPITAL Ia%STROKEvJ%CROSSED-TAILtL%RETROFLEX HOOKoPALATAL HOOKtCAPITAL LjM%HOOKlTURNE",
  "D M%LONG LEGwN%> HOOKjRETROFLEX HOOKvCAPITAL NjBARRED OiPHIdS%HOOKlESHdT%PALATAL HOOKtU BARePS",
  "ILONhCAPITAL UjV%HOOKlTURNED ViZa%RETROFLEX HOOKoCURLlEZHdTHETA.COMBINING DOTTED GRAVE ACCENTm",
  "ACUTE ACCENTtSNAKE=kUSPENSION|pMACRON-ACUTEmGRAVE-MACRONmMACRON-GRAVEmACUTE-MACRONmGRAVE-ACUTE",
  "-GRAVErACUTE-GRAVE-ACUTErLATIN SMALL$R=.COMBINING BREVE-MACRONmMACRON-BREVEm@ CIRCUMFLEX<xOGON",
  "EK<mZIGZAG=mIS=iUR<hS<iLATIN SMALL$FLATTENED OPEN A<wAEbObVcC CEDILLAjINSULAR DjETHdGoLETTER S",
  "MALL CAPITAL GwSMALL$KbLoLETTER SMALL CAPITAL LbMwSMALL$NoLETTER SMALL CAPITAL NbRwSMALL$R ROT",
  "UNDAjSbLONG SgZbALPHAfBaETAeSCHWAfFbL%@ MIDDLE TILDE.COMBINING LATIN SMALL$O%LIGHT CENTRALIZAT",
  "ION STROKE.COMBINING LATIN SMALL$PbESHdU%LIGHT CENTRALIZATION STROKE.COMBINING LATIN SMALL$WbA",
  "%DIAERESISqO%DIAERESISqU%DIAERESIS.COMBINING UP TACK<nKAVYKA< *f>rDOT< >oWIDE INVERTED BRIDGE=",
  ".COMBINING DOT= >nELETION|mOUBLE INVERTED BREVE=.COMBINING ALMOST EQUAL TO=v>:HEAD<u*:HEAD+DOW",
  "N:HEAD=.LATIN CAPITAL$A%RING=.LATIN SMALL$A%RING=.LATIN CAPITAL$B%DOT<.LATIN SMALL$B%DOT<.LATI",
  "N CAPITAL$B%DOT=.LATIN SMALL$B%DOT=.LATIN CAPITAL$B%LINE=.LATIN SMALL$B%LINE=.LATIN CAPITAL$C%",
  "CEDILLA+ACUTE.LATIN SMALL$C%CEDILLA+ACUTE.LATIN CAPITAL$D%DOT<.LATIN SMALL$D%DOT<.LATIN CAPITA",
  "L$D%DOT=.LATIN SMALL$D%DOT=.LATIN CAPITAL$D%LINE=.LATIN SMALL$D%LINE=.LATIN CAPITAL$D%CEDILLA.",
  "LATIN SMALL$D%CEDILLA.LATIN CAPITAL$D%CIRCUMFLEX=.LATIN SMALL$D%CIRCUMFLEX=.LATIN CAPITAL$E%MA",
  "CRON+GRAVE.LATIN SMALL$E%MACRON+GRAVE.LATIN CAPITAL$E%MACRON+ACUTE.LATIN SMALL$E%MACRON+ACUTE.",
  "LATIN CAPITAL$E%CIRCUMFLEX=.LATIN SMALL$E%CIRCUMFLEX=.LATIN CAPITAL$E%TILDE=.LATIN SMALL$E%TIL",
  "DE=.LATIN CAPITAL$E%CEDILLA+BREVE.LATIN SMALL$E%CEDILLA+BREVE.LATIN CAPITAL$F%DOT<.LATIN SMALL",
  "$F%DOT<.LATIN CAPITAL$G%MACRON.LATIN SMALL$G%MACRON.LATIN CAPITAL$H%DOT<.LATIN SMALL$H%DOT<.LA",
  "TIN CAPITAL$H%DOT=.LATIN SMALL$H%DOT=.LATIN CAPITAL$H%DIAERESIS.LATIN SMALL$H%DIAERESIS.LATI",
  "N CAPITAL$H%CEDILLA.LATIN SMALL$H%CEDILLA.LATIN CAPITAL$H%BREVE=.LATIN SMALL$H%BREVE=.LATIN CA",
  "PITAL$I%TILDE=.LATIN SMALL$I%TILDE=.LATIN CAPITAL$I%DIAERESIS+ACUTE.LATIN SMALL$I%DIAERESIS+AC",
  "UTE.LATIN CAPITAL$K%ACUTE.LATIN SMALL$K%ACUTEzCAPITAL$K%DOT=.LATIN SMALL$K%DOT=.LATIN CAPITAL$",
  "K%LINE=.LATIN SMALL$K%LINE=.LATIN CAPITAL$L%DOT=.LATIN SMALL$L%DOT=.LATIN CAPITAL$L%DOT=+MACRO",
  "N.LATIN SMALL$L%DOT=+MACRON.LATIN CAPITAL$L%LINE=.LATIN SMALL$L%LINE=.LATIN CAPITAL$L%CIRCUMFL",
  "EX=.LATIN SMALL$L%CIRCUMFLEX=.LATIN CAPITAL$M%ACUTE.LATIN SMALL$M%ACUTEzCAPITAL$M%DOT<.LATIN S",
  "MALL$M%DOT<.LATIN CAPITAL$M%DOT=.LATIN SMALL$M%DOT=.LATIN CAPITAL$N%DOT<.LATIN SMALL$N%DOT<.LA",
  "TIN CAPITAL$N%DOT=.LATIN SMALL$N%DOT=.LATIN CAPITAL$N%LINE=.LATIN SMALL$N%LINE=.LATIN CAPITAL$",
  "N%CIRCUMFLEX=.LATIN SMALL$N%CIRCUMFLEX=.LATIN CAPITAL$O%TILDE+ACUTE.LATIN SMALL$O%TILDE+ACUTE.",
  "LATIN CAPITAL$O%TILDE+DIAERESIS.LATIN SMALL$O%TILDE+DIAERESIS.LATIN CAPITAL$O%MACRON+GRAVE.LAT",
  "IN SMALL$O%MACRON+GRAVE.LATIN CAPITAL$O%MACRON+ACUTE.LATIN SMALL$O%MACRON+ACUTE.LATIN CAPITAL$",
  "P%ACUTE.LATIN SMALL$P%ACUTEzCAPITAL$P%DOT<.LATIN SMALL$P%DOT<.LATIN CAPITAL$R%DOT<.LATIN SMALL",
  "$R%DOT<.LATIN CAPITAL$R%DOT=.LATIN SMALL$R%DOT=.LATIN CAPITAL$R%DOT=+MACRON.LATIN SMALL$R%DOT=",
  "+MACRON.LATIN CAPITAL$R%LINE=.LATIN SMALL$R%LINE=.LATIN CAPITAL$S%DOT<.LATIN SMALL$S%DOT<.LATI",
  "N CAPITAL$S%DOT=.LATIN SMALL$S%DOT=.LATIN CAPITAL$S%ACUTE+DOT<.LATIN SMALL$S%ACUTE+DOT<.LATI",
  "N CAPITAL$S%CARON+DOT<.LATIN SMALL$S%CARON+DOT<.LATIN CAPITAL$S%DOT=+DOT<.LATIN SMALL$S%DOT=+D",
  "OT<.LATIN CAPITAL$T%DOT<.LATIN SMALL$T%DOT<.LATIN CAPITAL$T%DOT=.LATIN SMALL$T%DOT=.LATIN CAPI",
  "TAL$T%LINE=.LATIN SMALL$T%LINE=.LATIN CAPITAL$T%CIRCUMFLEX=.LATIN SMALL$T%CIRCUMFLEX=.LATIN CA",
  "PITAL$U%DIAERESIS=.LATIN SMALL$U%DIAERESIS=.LATIN CAPITAL$U%TILDE=.LATIN SMALL$U%TILDE=.LATI",
  "N CAPITAL$U%CIRCUMFLEX=.LATIN SMALL$U%CIRCUMFLEX=.LATIN CAPITAL$U%TILDE+ACUTE.LATIN SMALL$U%TI",
  "LDE+ACUTE.LATIN CAPITAL$U%MACRON+DIAERESIS.LATIN SMALL$U%MACRON+DIAERESIS.LATIN CAPITAL$V%TILD",
  "E.LATIN SMALL$V%TILDEzCAPITAL$V%DOT=.LATIN SMALL$V%DOT=.LATIN CAPITAL$W%GRAVE.LATIN SMALL$W%GR",
  "AVEzCAPITAL$W%ACUTE.LATIN SMALL$W%ACUTEzCAPITAL$W%DIAERESIS.LATIN SMALL$W%DIAERESIS.LATIN CAPI",
  "TAL$W%DOT<.LATIN SMALL$W%DOT<.LATIN CAPITAL$W%DOT=.LATIN SMALL$W%DOT=.LATIN CAPITAL$X%DOT<.LAT",
  "IN SMALL$X%DOT<.LATIN CAPITAL$X%DIAERESIS.LATIN SMALL$X%DIAERESIS.LATIN CAPITAL$Y%DOT<.LATIN S",
  "MALL$Y%DOT<.LATIN CAPITAL$Z%CIRCUMFLEX.LATIN SMALL$Z%CIRCUMFLEX.LATIN CAPITAL$Z%DOT=.LATIN SMA",
  "LL$Z%DOT=.LATIN CAPITAL$Z%LINE=.LATIN SMALL$Z%LINE=rH%LINE=rT%DIAERESISqW%RING<rY%RING<rA%* HA",
  "LF RINGwLONG S%DOT<iIAGONAL STROKEpHIGH STROKE.LATIN CAPITAL$SHARP SwSMALL$DELTAsCAPITAL$A%DOT",
  "=.LATIN SMALL$A%DOT=.LATIN CAPITAL$A%HOOK<.LATIN SMALL$A%HOOK<.LATIN CAPITAL$A%CIRCUMFLEX+ACUT",
  "E.LATIN SMALL$A%CIRCUMFLEX+ACUTE.LATIN CAPITAL$A%CIRCUMFLEX+GRAVE.LATIN SMALL$A%CIRCUMFLEX+GRA",
  "VE.LATIN CAPITAL$A%CIRCUMFLEX+HOOK<.LATIN SMALL$A%CIRCUMFLEX+HOOK<.LATIN CAPITAL$A%CIRCUMFLEX+",
  "TILDE.LATIN SMALL$A%CIRCUMFLEX+TILDE.LATIN CAPITAL$A%CIRCUMFLEX+DOT=.LATIN SMALL$A%CIRCUMFLEX+",
  "DOT=.LATIN CAPITAL$A%BREVE+ACUTE.LATIN SMALL$A%BREVE+ACUTE.LATIN CAPITAL$A%BREVE+GRAVE.LATIN S",
  "MALL$A%BREVE+GRAVE.LATIN CAPITAL$A%BREVE+HOOK<.LATIN SMALL$A%BREVE+HOOK<.LATIN CAPITAL$A%BREVE",
  "+TILDE.LATIN SMALL$A%BREVE+TILDE.LATIN CAPITAL$A%BREVE+DOT=.LATIN SMALL$A%BREVE+DOT=.LATIN CAP",
  "ITAL$E%DOT=.LATIN SMALL$E%DOT=.LATIN CAPITAL$E%HOOK<.LATIN SMALL$E%HOOK<.LATIN CAPITAL$E%TILDE",
  ".LATIN SMALL$E%TILDEzCAPITAL$E%CIRCUMFLEX+ACUTE.LATIN SMALL$E%CIRCUMFLEX+ACUTE.LATIN CAPITAL$E",
  "%CIRCUMFLEX+GRAVE.LATIN SMALL$E%CIRCUMFLEX+GRAVE.LATIN CAPITAL$E%CIRCUMFLEX+HOOK<.LATIN SMALL$",
  "E%CIRCUMFLEX+HOOK<.LATIN CAPITAL$E%CIRCUMFLEX+TILDE.LATIN SMALL$E%CIRCUMFLEX+TILDE.LATIN CAPIT",
  "AL$E%CIRCUMFLEX+DOT=.LATIN SMALL$E%CIRCUMFLEX+DOT=.LATIN CAPITAL$I%HOOK<.LATIN SMALL$I%HOOK<.L",
  "ATIN CAPITAL$I%DOT=.LATIN SMALL$I%DOT=.LATIN CAPITAL$O%DOT=.LATIN SMALL$O%DOT=.LATIN CAPITAL$O",
  "%HOOK<.LATIN SMALL$O%HOOK<.LATIN CAPITAL$O%CIRCUMFLEX+ACUTE.LATIN SMALL$O%CIRCUMFLEX+ACUTE.LAT",
  "IN CAPITAL$O%CIRCUMFLEX+GRAVE.LATIN SMALL$O%CIRCUMFLEX+GRAVE.LATIN CAPITAL$O%CIRCUMFLEX+HOOK<.",
  "LATIN SMALL$O%CIRCUMFLEX+HOOK<.LATIN CAPITAL$O%CIRCUMFLEX+TILDE.LATIN SMALL$O%CIRCUMFLEX+TILDE",
  ".LATIN CAPITAL$O%CIRCUMFLEX+DOT=.LATIN SMALL$O%CIRCUMFLEX+DOT=.LATIN CAPITAL$O%HORN+ACUTE.LATI",
  "N SMALL$O%HORN+ACUTE.LATIN CAPITAL$O%HORN+GRAVE.LATIN SMALL$O%HORN+GRAVE.LATIN CAPITAL$O%HORN+",
  "HOOK<.LATIN SMALL$O%HORN+HOOK<.LATIN CAPITAL$O%HORN+TILDE.LATIN SMALL$O%HORN+TILDE.LATIN CAPIT",
  "AL$O%HORN+DOT=.LATIN SMALL$O%HORN+DOT=.LATIN CAPITAL$U%DOT=.LATIN SMALL$U%DOT=.LATIN CAPITAL$U",
  "%HOOK<.LATIN SMALL$U%HOOK<.LATIN CAPITAL$U%HORN+ACUTE.LATIN SMALL$U%HORN+ACUTE.LATIN CAPITAL$U",
  "%HORN+GRAVE.LATIN SMALL$U%HORN+GRAVE.LATIN CAPITAL$U%HORN+HOOK<.LATIN SMALL$U%HORN+HOOK<.LATI",
  "N CAPITAL$U%HORN+TILDE.LATIN SMALL$U%HORN+TILDE.LATIN CAPITAL$U%HORN+DOT=.LATIN SMALL$U%HORN+D",
  "OT=.LATIN CAPITAL$Y%GRAVE.LATIN SMALL$Y%GRAVEzCAPITAL$Y%DOT=.LATIN SMALL$Y%DOT=.LATIN CAPITAL$",
  "Y%HOOK<.LATIN SMALL$Y%HOOK<.LATIN CAPITAL$Y%TILDE.LATIN SMALL$Y%TILDEzCAPITAL$MIDDLE-WELSH LL.",
  "LATIN SMALL$MIDDLE-WELSH LL.LATIN CAPITAL$MIDDLE-WELSH V.LATIN SMALL$MIDDLE-WELSH V.LATIN CAPI",
  "TAL$Y%LOOP.LATIN SMALL$Y%LOOP.GREEK SMALL$ALPHA%PSILIfDASIAfPSILI+VARIApDASIA+VARIApPSILI+OXIA",
  "oDASIA+OXIAoPSILI+PERISPOMENIvDASIA+PERISPOMENI.GREEK CAPITAL$ALPHA%PSILIfDASIAfPSILI+VARIApDA",
  "SIA+VARIApPSILI+OXIAoDASIA+OXIAoPSILI+PERISPOMENIvDASIA+PERISPOMENI.GREEK SMALL$EPSILON%PSILIf",
  "DASIAfPSILI+VARIApDASIA+VARIApPSILI+OXIAoDASIA+OXIA(1F18).GREEK CAPITAL$EPSILON%PSILIfDASIAfPS",
  "ILI+VARIApDASIA+VARIApPSILI+OXIAoDASIA+OXIA(1F20).GREEK SMALL$ETA%PSILIfDASIAfPSILI+VARIApDASI",
  "A+VARIApPSILI+OXIAoDASIA+OXIAoPSILI+PERISPOMENIvDASIA+PERISPOMENI.GREEK CAPITAL$ETA%PSILIfDASI",
  "AfPSILI+VARIApDASIA+VARIApPSILI+OXIAoDASIA+OXIAoPSILI+PERISPOMENIvDASIA+PERISPOMENI.GREEK SMAL",
  "L$IOTA%PSILIfDASIAfPSILI+VARIApDASIA+VARIApPSILI+OXIAoDASIA+OXIAoPSILI+PERISPOMENIvDASIA+PERIS",
  "POMENI.GREEK CAPITAL$IOTA%PSILIfDASIAfPSILI+VARIApDASIA+VARIApPSILI+OXIAoDASIA+OXIAoPSILI+PERI",
  "SPOMENIvDASIA+PERISPOMENI.GREEK SMALL$OMICRON%PSILIfDASIAfPSILI+VARIApDASIA+VARIApPSILI+OXIAoD",
  "ASIA+OXIA(1F48).GREEK CAPITAL$OMICRON%PSILIfDASIAfPSILI+VARIApDASIA+VARIApPSILI+OXIAoDASIA+OXI",
  "A(1F50).GREEK SMALL$UPSILON%PSILIfDASIAfPSILI+VARIApDASIA+VARIApPSILI+OXIAoDASIA+OXIAoPSILI+PE",
  "RISPOMENIvDASIA+PERISPOMENI(1F59).GREEK CAPITAL$UPSILON%DASIA(1F5B)a+VARIA(1F5D)fOXIA(1F5F)ePE",
  "RISPOMENI.GREEK SMALL$OMEGA%PSILIfDASIAfPSILI+VARIApDASIA+VARIApPSILI+OXIAoDASIA+OXIAoPSILI+PE",
  "RISPOMENIvDASIA+PERISPOMENI.GREEK CAPITAL$OMEGA%PSILIfDASIAfPSILI+VARIApDASIA+VARIApPSILI+OXIA",
  "oDASIA+OXIAoPSILI+PERISPOMENIvDASIA+PERISPOMENI.GREEK SMALL$ALPHA%VARIAfOXIApEPSILON%VARIAfOXI",
  "AqTA%VARIAfOXIAnIOTA%VARIAfOXIAoOMICRON%VARIAfOXIArUPSILON%VARIAfOXIArOMEGA%VARIAfOXIA(1F80)pA",
  "LPHA%PSILI+YPOGEGRAMMENIxDASIA+YPOGEGRAMMENIxPSILI+VARIA+YPOGEGRAMMENI.GREEK SMALL$ALPHA%DASIA",
  "+VARIA+YPOGEGRAMMENI.GREEK SMALL$ALPHA%PSILI+OXIA+YPOGEGRAMMENI.GREEK SMALL$ALPHA%DASIA+OXIA+Y",
  "POGEGRAMMENI.GREEK SMALL$ALPHA%PSILI+PERISPOMENI+YPOGEGRAMMENI.GREEK SMALL$ALPHA%DASIA+PERISPO",
  "MENI+YPOGEGRAMMENI.GREEK CAPITAL$ALPHA%PSILI+PROSGEGRAMMENIyDASIA+PROSGEGRAMMENIyPSILI+VARIA+P",
  "ROSGEGRAMMENI.GREEK CAPITAL$ALPHA%DASIA+VARIA+PROSGEGRAMMENI.GREEK CAPITAL$ALPHA%PSILI+OXIA+PR",
  "OSGEGRAMMENI.GREEK CAPITAL$ALPHA%DASIA+OXIA+PROSGEGRAMMENI.GREEK CAPITAL$ALPHA%PSILI+PERISPOME",
  "NI+PROSGEGRAMMENI.GREEK CAPITAL$ALPHA%DASIA+PERISPOMENI+PROSGEGRAMMENI.GREEK SMALL$ETA%PSILI+Y",
  "POGEGRAMMENIxDASIA+YPOGEGRAMMENIxPSILI+VARIA+YPOGEGRAMMENI.GREEK SMALL$ETA%DASIA+VARIA+YPOGEGR",
  "AMMENI.GREEK SMALL$ETA%PSILI+OXIA+YPOGEGRAMMENI.GREEK SMALL$ETA%DASIA+OXIA+YPOGEGRAMMENI.GREE",
  "K SMALL$ETA%PSILI+PERISPOMENI+YPOGEGRAMMENI.GREEK SMALL$ETA%DASIA+PERISPOMENI+YPOGEGRAMMENI.GR",
  "EEK CAPITAL$ETA%PSILI+PROSGEGRAMMENIyDASIA+PROSGEGRAMMENIyPSILI+VARIA+PROSGEGRAMMENI.GREEK CAP",
  "ITAL$ETA%DASIA+VARIA+PROSGEGRAMMENI.GREEK CAPITAL$ETA%PSILI+OXIA+PROSGEGRAMMENI.GREEK CAPITAL$",
  "ETA%DASIA+OXIA+PROSGEGRAMMENI.GREEK CAPITAL$ETA%PSILI+PERISPOMENI+PROSGEGRAMMENI.GREEK CAPITAL",
  "$ETA%DASIA+PERISPOMENI+PROSGEGRAMMENI.GREEK SMALL$OMEGA%PSILI+YPOGEGRAMMENIxDASIA+YPOGEGRAMMEN",
  "IxPSILI+VARIA+YPOGEGRAMMENI.GREEK SMALL$OMEGA%DASIA+VARIA+YPOGEGRAMMENI.GREEK SMALL$OMEGA%PSIL",
  "I+OXIA+YPOGEGRAMMENI.GREEK SMALL$OMEGA%DASIA+OXIA+YPOGEGRAMMENI.GREEK SMALL$OMEGA%PSILI+PERISP",
  "OMENI+YPOGEGRAMMENI.GREEK SMALL$OMEGA%DASIA+PERISPOMENI+YPOGEGRAMMENI.GREEK CAPITAL$OMEGA%PSIL",
  "I+PROSGEGRAMMENIyDASIA+PROSGEGRAMMENIyPSILI+VARIA+PROSGEGRAMMENI.GREEK CAPITAL$OMEGA%DASIA+VAR",
  "IA+PROSGEGRAMMENI.GREEK CAPITAL$OMEGA%PSILI+OXIA+PROSGEGRAMMENI.GREEK CAPITAL$OMEGA%DASIA+OXIA",
  "+PROSGEGRAMMENI.GREEK CAPITAL$OMEGA%PSILI+PERISPOMENI+PROSGEGRAMMENI.GREEK CAPITAL$OMEGA%DASIA",
  "+PERISPOMENI+PROSGEGRAMMENI.GREEK SMALL$ALPHA%VRACHYgMACRONgVARIA+YPOGEGRAMMENIxYPOGEGRAMMENIn",
  "OXIA+YPOGEGRAMMENI(1FB6)wPERISPOMENIa+YPOGEGRAMMENI.GREEK CAPITAL$ALPHA%VRACHYgMACRONgVARIAfOX",
  "IAePROSGEGRAMMENI.GREEK KORONIShPROSGEGRAMMENInSILIeERISPOMENIlDIALYTIKA+PERISPOMENIzSMALL$ETA",
  "%VARIA+YPOGEGRAMMENIxYPOGEGRAMMENInOXIA+YPOGEGRAMMENI(1FC6)wPERISPOMENIa+YPOGEGRAMMENI.GREEK C",
  "APITAL$EPSILON%VARIAfOXIAqTA%VARIAfOXIAePROSGEGRAMMENI.GREEK PSILI+VARIAfOXIAePERISPOMENIvSMAL",
  "L$IOTA%VRACHYgMACRONgDIALYTIKA+VARIAfOXIA(1FD6)sPERISPOMENIlDIALYTIKA+PERISPOMENI.GREEK CAPITA",
  "L$IOTA%VRACHYgMACRONgVARIAfOXIA(1FDD).GREEK DASIA+VARIAfOXIAePERISPOMENIvSMALL$UPSILON%VRACHYg",
  "MACRONgDIALYTIKA+VARIAfOXIA.GREEK SMALL$RHO%PSILIfDASIAoUPSILON%PERISPOMENIlDIALYTIKA+PERISPOM",
  "ENI.GREEK CAPITAL$UPSILON%VRACHYgMACRONgVARIAfOXIArRHO%DASIA.GREEK DIALYTIKA+VARIAfOXIAsVARIA(",
  "1FF2)fSMALL$OMEGA%VARIA+YPOGEGRAMMENIxYPOGEGRAMMENInOXIA+YPOGEGRAMMENI(1FF6)wPERISPOMENIa+YPOG",
  "EGRAMMENI.GREEK CAPITAL$OMICRON%VARIAfOXIApEGA%VARIAfOXIAePROSGEGRAMMENI.GREEK OXIAeDASIA"]

end Readiness.CharacterName
