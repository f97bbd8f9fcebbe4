/-!
# Names of characters: aliases

The second names of code points, save those that a rule gives.
How they are written down is told where they are looked up.
-/

namespace Readiness.CharacterName

/-- The second names of code points, save those that a rule gives. -/
def aliases : List String := [
  "(0).NULL(0)b.START OF HEADING(1)pOHcTART OF TEXT(2)lX.END OF TEXT(3)kTXcND OF TRANSMISSION(4)s",
  "OTcNQUIRY(5)e.ACKNOWLEDGE(6)icLERT(7).BELcACKSPACE(8)iS.CHARACTER TABULATION(9).HORIZONTAL TAB",
  "ULATION(9)uT(9).TAB.LINE FEED(A).NEW LINE(A).END OF LINE(A).LF(A).NL(A).EOL.LINE TABULATION(B)",
  ".,TABULATION(B)sT.FORM FEED(C)iF.CARRIAGE RETURN(D)oR.SHIFT OUT(E).LOCKING-SHIFT ONE(E).SObHIF",
  "T IN(F).LOCKING-SHIFT ZERO(F).SI.DATA LINK ESCAPE(10)pLEcEVICE CONTROL ONE(11)rC1cEVICE CONTRO",
  "L TWO(12)rC2cEVICE CONTROL THREE(13)tC3cEVICE CONTROL FOUR(14)sC4.NEGATIVE ACKNOWLEDGE(15)tAK.",
  "SYNCHRONOUS IDLE(16)n.END OF TRANSMISSION BLOCK(17)yTB.CANCEL(18)d.END OF MEDIUM(19)mOM.SUBSTI",
  "TUTE(1A)h.ESCAPE(1B)d.INFORMATION SEPARATOR FOUR(1C).FILE SEPARATOR(1C)nS.INFORMATION SEPARATO",
  "R THREE(1D).GROUP SEPARATOR(1D)oS.INFORMATION SEPARATOR TWO(1E).RECORD SEPARATOR(1E)pS.INFORMA",
  "TION SEPARATOR ONE(1F).UNIT SEPARATOR(1F)nS.SP(7F).DELETE(7F)d.PADDING CHARACTER(80)o.HIGH OCT",
  "ET PRESET(81)qOP.BREAK PERMITTED HERE(82)tPH.NO BREAK HERE(83)mBH.INDEX(84)c.NEXT LINE(85)hL.S",
  "TART OF SELECTED AREA(86)vSA.END OF SELECTED AREA(87)tSA.CHARACTER TABULATION SET(88).HORIZONT",
  "AL TABULATION SET(88)yTS.CHARACTER TABULATION%JUSTIFICATION(89).HORIZONTAL TABULATION%JUSTIFIC",
  "ATION(89).HTJ.LINE TABULATION SET(8A).,TABULATION SET(8A)wTS.PARTIAL LINE FORWARD(8B)hDOWN(8B)",
  "qLDcARTIAL LINE BACKWARD(8C)iUP(8C)oLU.REVERSE LINE FEED(8D)jINDEX(8D)mI.SINGLE SHIFT TWO(8E)k",
  "-SHIFT-2(8E)nS2cINGLE SHIFT THREE(8F)m-SHIFT-3(8F)nS3.DEVICE CONTROL STRING(90)uCS.PRIVATE US",
  "E ONE(91)e-1(91)mU1cRIVATE USE TWO(92)e-2(92)mU2.SET TRANSMIT STATE(93)rTS.CANCEL CHARACTER(94",
  ")pCH.MESSAGE WAITING(95)oW.START OF GUARDED AREA(96)mPROTECTED AREA(96)wPA.END OF GUARDED AREA",
  "(97)mPROTECTED AREA(97)uPA.START OF STRING(98)oOScINGLE GRAPHIC CHARACTER INTRODUCER(99).SGCcI",
  "NGLE CHARACTER INTRODUCER(9A).SCI.CONTROL SEQUENCE INTRODUCER(9B).CSI.STRING TERMINATOR(9C)p.O",
  "PERATING SYSTEM COMMAND(9D)xSC.PRIVACY MESSAGE(9E)oM.APPLICATION PROGRAM COMMAND(9F)zC.NBSP(AD",
  ").SHY(1A2).LATIN CAPITAL$GHAsSMALL$GHA(34F).CGJ(61C).ALM(709).SYRIAC SUBLINEAR COLON SKEWED >(",
  "CDE).KANNADA$LLLA(E9D).LAO$FO FON(E9F)cAY(EA3)gRO(EA5)cLO(FD0).TIBETAN| BKA- SHOG GI MGO RGYAN",
  "(11EC).HANGUL JONGSEONG YESIEUNG-KIYEOKgSSANGKIYEOKuSSANGYESIEUNGnYESIEUNG-KHIEUKH(180B).FVS1b",
  "2b3.MVS.FVS4(200B).ZWSPcNJcJ.LRM.RLM(202A).LRE.RLE.PDF.LRO.RLO.NNBSP(205F).MMSP.WJ(2066).LRI.R",
  "LI.FSI.PDI(2118).WEIERSTRASS ELLIPTIC FUNCTION(2448).MICR ON US_mDASH_(2B7A).>WARDS^-HEADED:%",
  "@ ,STROKE(2B7C).*WARDS^-HEADED:%@ ,STROKE(A015).YI SYLLABLE ITERATION|(AA6E).MYANMAR$KHAMTI LL",
  "A(FE18).PRESENTATION& FOR ,* WHITE LENTICULAR BRACKET(FEFF).BYTE ORDER|(FEFF)oOM(FEFF).ZWNBSP(",
  "122D4).CUNEIFORM; NU11 TENUeOVER NU11 BUR OVER BUR(16E56).MEDEFAIDRIN CAPITAL$HbNG(16E76)rSMAL",
  "L$HbNG(1B001).HENTAIGANA$E-1(1D0C5).BYZANTINE MUSICAL_ FTHORA SKLIRON CHROMA VASIS"]

end Readiness.CharacterName
