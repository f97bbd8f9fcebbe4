/-!
# Names of characters: punctuation and symbols

The names of the code points from U+2000 to U+2FFF.
How they are written down is told where they are looked up.
-/

namespace Readiness.CharacterName

/-- The names of the code points from U+2000 to U+2FFF. -/
def symbols : List String := [
  "(2000).EN QUADgM QUADgN SPACEhM SPACE.THREE-PER-EM SPACE.FOUR-PER-EM SPACE.SIX-PER-EM SPACE.FI",
  "GURE SPACE.PUNCTUATION SPACE.THIN SPACE.HAIR SPACE.ZERO WIDTH SPACEfNON-JOINERkJOINER.>-TO-*|.",
  "*-TO->|.HYPHEN.NON-BREAKING HYPHEN.FIGURE DASH.EN DASHgM DASH.HORIZONTAL BAR.@ ,LINEnLOW LINE.",
  "> SINGLE QUOTATION|.* SINGLE QUOTATION|.SINGLE LOW-9 QUOTATION|uHIGH-REVERSED-9 QUOTATION|.",
  "> @ QUOTATION|.* @ QUOTATION|.@ LOW-9 QUOTATION|uHIGH-REVERSED-9 QUOTATION|.DAGGER.@ DAGGER.BU",
  "LLET.TRIANGULAR BULLET.ONE DOT LEADER.TWO DOT LEADER.HORIZONTAL ELLIPSISsYPHENATION POINT.LIN",
  "E SEPARATOR.PARAGRAPH SEPARATOR.>-TO-* EMBEDDING.*-TO-> EMBEDDING.POP DIRECTIONAL&ATTING.>-TO-",
  "* OVERRIDE.*-TO-> OVERRIDE.NARROW NO-BREAK SPACE.PER MILLE;kTEN THOUSAND;uRIME.@ PRIME.TRIPL",
  "E PRIME.REVERSED PRIMEf@ PRIMEmTRIPLE PRIME.CARET.SINGLE >-POINTING ANGLE QUOTATION|.SINGLE *-",
  "POINTING ANGLE QUOTATION|.REFERENCE|.@ EXCLAMATION|.INTERROBANG.OVERLINE.UNDERTIE.CHARACTER TI",
  "EmARET INSERTION POINT.ASTERISM.HYPHEN BULLET.FRACTION SLASH.> SQUARE BRACKET%QUILL.* SQUARE B",
  "RACKET%QUILL.@ QUESTION|.QUESTION EXCLAMATION|.EXCLAMATION QUESTION|.TIRONIAN; ET.REVERSED PIL",
  "CROW;.~ >WARDS BULLETq*WARDS BULLET.LOW ASTERISK.REVERSED SEMICOLON.CLOSE UP.TWO ASTERISKS ALI",
  "GNED VERTICALLY.COMMERCIAL MINUS;.SWUNG DASH.INVERTED UNDERTIE.FLOWER PUNCTUATION|.THREE DOT P",
  "UNCTUATION.QUADRUPLE PRIME.FOUR DOT PUNCTUATIONtIVE DOT PUNCTUATION.TWO DOT PUNCTUATION.FOUR D",
  "OT|.DOTTED CROSS.TRICOLON.,FOUR DOTS.MEDIUM MATHEMATICAL SPACE.WORD JOINER.FUNCTION APPLICATIO",
  "N.INVISIBLE TIMESfSEPARATORjPLUS(2066).>-TO-* ISOLATE.*-TO-> ISOLATE.FIRST STRONG ISOLATE.PO",
  "P DIRECTIONAL ISOLATE.INHIBIT SYMMETRIC SWAPPING.ACTIVATE SYMMETRIC SWAPPING.INHIBIT ARABIC& S",
  "HAPING.ACTIVATE ARABIC& SHAPING.NATIONAL DIGIT SHAPESuOMINAL DIGIT SHAPES.SUPERSCRIPT ZEROeLAT",
  "IN SMALL$I(2074)uFOURdIVEeSIXcEVENfEIGHTfNINEePLUS;jMINUSfEQUALS;l> PARENTHESISq* PARENTHESISr",
  "LATIN SMALL$N.SUBSCRIPT ZEROeONEdTWOcHREEfFOURdIVEeSIXcEVENfEIGHTfNINEePLUS;jMINUSfEQUALS;l> P",
  "ARENTHESISq* PARENTHESIS(2090).LATIN SUBSCRIPT SMALL$AbEbObXbSCHWAfHbKbLbMbNbPbSbT(20A0).EURO-",
  "CURRENCY;.COLON;jRUZEIRO;.FRENCH FRANC;.LIRA;.MILL;.NAIRA;.PESETA;.RUPEE;.WON;.NEW SHEQEL;.DON",
  "G;.EURO;.KIP;.TUGRIK;.DRACHMA;.GERMAN PENNY;.PESO;.GUARANI;.AUSTRAL;.HRYVNIA;.CEDI;.LIVRE TOUR",
  "NOIS;.SPESMILO;.TENGE;.INDIAN RUPEE;.TURKISH LIRA;.NORDIC|;.MANAT;.RUBLE;.LARI;.BITCOIN;.SOM;(",
  "20D0).COMBINING > HARPOON<s* HARPOON<tLONG ,LINE OVERLAY.COMBINING SHORT ,LINE OVERLAY.COMBINI",
  "NG ANTICLOCKWISE:<zCLOCKWISE:<v>:<q*:<pNG OVERLAYmCLOCKWISE RING OVERLAYwANTICLOCKWISE RING OV",
  "ERLAY.COMBINING THREE DOTS<qFOUR DOTS<pENCLOSING CIRCLEgSQUAREgDIAMONDhCIRCLE BACKSLASH.COMBIN",
  "ING > *:<wENCLOSING SCREENgKEYCAPgUPWARD POINTING^.COMBINING REVERSE SOLIDUS OVERLAYx@ ,STROK",
  "E OVERLAY.COMBINING ANNUITY_oTRIPLE UNDERDOTpWIDE BRIDGE<r>WARDS: OVERLAYwONG @ SOLIDUS OVERLA",
  "Y.COMBINING *WARDS HARPOON%BARB DOWNWARDS.COMBINING >WARDS HARPOON%BARB DOWNWARDS.COMBINING >:",
  "=q*:=rASTERISK<(2100).ACCOUNT OFjDDRESSED TO THE SUBJECT.@-STRUCK CAPITAL CwEGREE CELSIUS.CENT",
  "RE LINE_rARE OFfDA UNA.EULER CONSTANT.SCRUPLE.DEGREE FAHRENHEIT.SCRIPT SMALL GhCAPITAL H.~-LET",
  "TER CAPITAL H.@-STRUCK CAPITAL H.PLANCK CONSTANTa OVER TWO PI.SCRIPT CAPITAL I.~-LETTER CAPITA",
  "L I.SCRIPT CAPITAL LjSMALL L.L B BAR_.@-STRUCK CAPITAL N.NUMERO;.SOUND RECORDING COPY*yCRIPT C",
  "APITAL P.@-STRUCK CAPITAL PbQ.SCRIPT CAPITAL R.~-LETTER CAPITAL R.@-STRUCK CAPITAL R.PRESCRIPT",
  "ION TAKE.RESPONSE.SERVICE|.TELEPHONE;nRADE|;.VERSICLE.@-STRUCK CAPITAL Z.OUNCE;jHM;.INVERTED O",
  "HM;.~-LETTER CAPITAL Z.TURNED GREEK SMALL$IOTA.KELVIN;.ANGSTROM;.SCRIPT CAPITAL B.~-LETTER CAP",
  "ITAL C.ESTIMATED_.SCRIPT SMALL EhCAPITAL EbF.TURNED CAPITAL F.SCRIPT CAPITAL MjSMALL O.ALEF_.B",
  "ET_.GIMEL_.DALET_.INFORMATION SOURCE.ROTATED CAPITAL Q.FACSIMILE;.@-STRUCK SMALL PIcGAMMAlCAPI",
  "TAL GAMMAfPIkN-ARY SUMMATION.TURNED SANS-SERIF CAPITAL GbL.REVERSED SANS-SERIF CAPITAL L.TURNE",
  "D SANS-SERIF CAPITAL Y.@-STRUCK ITALIC CAPITAL DjSMALL DbEbIbJ.PROPERTY LINE.TURNED AMPERSAND.",
  "PER;.AKTIESELSKAB.TURNED SMALL F.SYMBOL FOR SAMARITAN SOURCE.VULGAR FRACTION ONE SEVENTHhNINTH",
  "fTENTHeHIRDjTWO THIRDSkONE FIFTHjTWO FIFTHSjHREE FIFTHSmFOUR FIFTHSlONE SIXTHjFIVE SIXTHSlON",
  "E EIGHTHkTHREE EIGHTHSnFIVE EIGHTHSmSEVEN EIGHTHS.FRACTION NUMERATOR ONE.ROMAN NUMERAL ONEdTWO",
  "cHREEfFOURdIVEeSIXcEVENfEIGHTfNINEeTENdELEVENgTWELVEgFIFTYfONE HUNDREDlFIVE HUNDREDmONE THOUSA",
  "ND.SMALL ROMAN NUMERAL ONEdTWOcHREEfFOURdIVEeSIXcEVENfEIGHTfNINEeTENdELEVENgTWELVEgFIFTYfONE H",
  "UNDREDlFIVE HUNDREDmONE THOUSAND.ROMAN NUMERAL ONE THOUSAND C DqFIVE THOUSANDnTEN THOUSANDmREV",
  "ERSED ONE HUNDRED.LATIN SMALL$REVERSED C.ROMAN NUMERAL SIX LATE&nFIFTY EARLY&kTHOUSANDoONE HUN",
  "DRED THOUSAND.VULGAR FRACTION ZERO THIRDS.TURNED DIGIT TWOcHREE(2190).>WARDS:.UPWARDS:.*WARDS:",
  ".DOWNWARDS:.> *:.UP DOWN:.NORTH WEST:kEAST:.SOUTH EAST:kWEST:.>WARDS:%STROKE.*WARDS:%STROKE.>W",
  "ARDS WAVE:.*WARDS WAVE:.>WARDS TWO HEADED:.UPWARDS TWO HEADED:.*WARDS TWO HEADED:.DOWNWARDS TW",
  "O HEADED:.>WARDS:%TAIL.*WARDS:%TAIL.>WARDS: FROM BAR.UPWARDS: FROM BAR.*WARDS: FROM BAR.DOWNWA",
  "RDS: FROM BAR.UP DOWN:%BASE.>WARDS:%HOOK.*WARDS:%HOOK.>WARDS:%LOOP.*WARDS:%LOOP.> * WAVE:.> *:",
  "%STROKE.DOWNWARDS ZIGZAG:.UPWARDS:%TIP >WARDSj*WARDS.DOWNWARDS:%TIP >WARDSj*WARDS.*WARDS:%CORN",
  "ER DOWNWARDS.DOWNWARDS:%CORNER >WARDS.ANTICLOCKWISE TOP SEMICIRCLE:.CLOCKWISE TOP SEMICIRCLE:.",
  "NORTH WEST: TO LONG BAR.>WARDS: TO BAR OVER *WARDS: TO BAR.ANTICLOCKWISE OPEN CIRCLE:.CLOCKWIS",
  "E OPEN CIRCLE:.>WARDS HARPOON%BARB UPWARDShDOWNWARDS.UPWARDS HARPOON%BARB *WARDSk>WARDS.*WARD",
  "S HARPOON%BARB UPWARDShDOWNWARDS.DOWNWARDS HARPOON%BARB *WARDSk>WARDS.*WARDS: OVER >WARDS:.UPW",
  "ARDS: >WARDS OF DOWNWARDS:.>WARDS: OVER *WARDS:.>WARDS PAIRED:S.UPWARDS PAIRED:S.*WARDS PAIRED",
  ":S.DOWNWARDS PAIRED:S.>WARDS HARPOON OVER *WARDS HARPOON.*WARDS HARPOON OVER >WARDS HARPOON.>W",
  "ARDS @:%STROKE.> * @:%STROKE.*WARDS @:%STROKE.>WARDS @:.UPWARDS @:.*WARDS @:.DOWNWARDS @:.",
  "> * @:.UP DOWN @:.NORTH WEST @:rEAST @:.SOUTH EAST @:rWEST @:.>WARDS TRIPLE:.*WARDS TRIPLE:.>W",
  "ARDS SQUIGGLE:.*WARDS SQUIGGLE:.UPWARDS:%@ STROKE.DOWNWARDS:%@ STROKE.>WARDS DASHED:.UPWARDS D",
  "ASHED:.*WARDS DASHED:.DOWNWARDS DASHED:.>WARDS: TO BAR.*WARDS: TO BAR.>WARDS WHITE:.UPWARDS WH",
  "ITE:.*WARDS WHITE:.DOWNWARDS WHITE:.UPWARDS WHITE: FROM BARiON PEDESTALa%HORIZONTAL BARo,BAR.U",
  "PWARDS WHITE @:a ON PEDESTAL.*WARDS WHITE: FROM WALL.NORTH WEST: TO CORNER.SOUTH EAST: TO CORN",
  "ER.UP DOWN WHITE:.*:%SMALL CIRCLE.DOWNWARDS: >WARDS OF UPWARDS:.THREE *WARDS:S.>WARDS:%,STROKE",
  ".*WARDS:%,STROKE.> *:%,STROKE.>WARDS:%@ ,STROKE.*WARDS:%@ ,STROKE.> *:%@ ,STROKE.>WARDS OPEN-H",
  "EADED:.*WARDS OPEN-HEADED:.> * OPEN-HEADED:.FOR ALL.COMPLEMENT.PARTIAL DIFFERENTIAL.THERE EXIS",
  "TSgDOES NOT EXIST.EMPTY SET.INCREMENT.NABLA.ELEMENT OF.NOT AN ELEMENT OF.SMALL ELEMENT OF.CONT",
  "AINS AS MEMBER.DOES NOT CONTAIN AS MEMBER.SMALL CONTAINS AS MEMBER.END OF PROOF.N-ARY PRODUCTh",
  "COPRODUCTjSUMMATION.MINUS;f-OR-PLUS;.DOT PLUShIVISION SLASH.SET MINUS.ASTERISK OPERATOR.RING O",
  "PERATOR.BULLET OPERATOR.SQUARE ROOT.CUBE ROOT.FOURTH ROOT.PROPORTIONAL TO.INFINITY.* ANGLE.ANG",
  "LE.MEASURED ANGLE.SPHERICAL ANGLE.DIVIDESgOES NOT DIVIDE.PARALLEL TO.NOT PARALLEL TO.LOGICAL A",
  "NDdOR.INTERSECTION.UNION.INTEGRAL.@ INTEGRAL.TRIPLE INTEGRAL.CONTOUR INTEGRAL.SURFACE INTEGRAL",
  ".VOLUME INTEGRAL.CLOCKWISE INTEGRALiCONTOUR INTEGRAL.ANTICLOCKWISE CONTOUR INTEGRAL.THEREFORE.",
  "BECAUSE.RATIO.PROPORTION.DOT MINUS.EXCESS.GEOMETRIC PROPORTION.HOMOTHETIC.TILDE OPERATOR.REVER",
  "SED TILDE.INVERTED LAZY S.SINE WAVE.WREATH PRODUCT.NOT TILDE.MINUS TILDE.ASYMPTOTICALLY EQUA",
  "L TO.NOT ASYMPTOTICALLY EQUAL TO.APPROXIMATELY EQUAL TOiBUT NOT ACTUALLY EQUAL TO.NEITHER APPR",
  "OXIMATELY NOR ACTUALLY EQUAL TO.ALMOST EQUAL TO.NOT ALMOST EQUAL TO.ALMOST EQUAL OR EQUAL TO.T",
  "RIPLE TILDE.ALL EQUAL TO.EQUIVALENT TO.GEOMETRICALLY EQUIVALENT TO.DIFFERENCE BETWEEN.APPROACH",
  "ES THE LIMIT.GEOMETRICALLY EQUAL TO.APPROXIMATELY EQUAL TO OR THE IMAGE OF.IMAGE OF OR APPROXI",
  "MATELY EQUAL TO.COLON EQUALS.EQUALS COLON.RING IN EQUAL TOlEQUAL TO.CORRESPONDS TO.ESTIMATESiQ",
  "UIANGULAR TO.STAR EQUALS.DELTA EQUAL TO.EQUAL TO BY DEFINITION.MEASURED BY.QUESTIONED EQUAL TO",
  ".NOT EQUAL TO.IDENTICAL TO.NOT IDENTICAL TO.STRICTLY EQUIVALENT TO.LESS-THAN OR EQUAL TO.GREAT",
  "ER-THAN OR EQUAL TO.LESS-THAN OVER EQUAL TO.GREATER-THAN OVER EQUAL TO.LESS-THAN BUT NOT EQUA",
  "L TO.GREATER-THAN BUT NOT EQUAL TO.MUCH LESS-THANjGREATER-THAN.BETWEEN.NOT EQUIVALENT TOnLESS-",
  "THANjGREATER-THANpEITHER LESS-THAN NOR EQUAL TOwGREATER-THAN NOR EQUAL TO.LESS-THAN OR EQUIVAL",
  "ENT TO.GREATER-THAN OR EQUIVALENT TO.NEITHER LESS-THAN NOR EQUIVALENT TO.NEITHER GREATER-THA",
  "N NOR EQUIVALENT TO.LESS-THAN OR GREATER-THAN.GREATER-THAN OR LESS-THAN.NEITHER LESS-THAN NO",
  "R GREATER-THAN.NEITHER GREATER-THAN NOR LESS-THAN.PRECEDES.SUCCEEDS.PRECEDES OR EQUAL TO.SUCCE",
  "EDS OR EQUAL TO.PRECEDES OR EQUIVALENT TO.SUCCEEDS OR EQUIVALENT TO.DOES NOT PRECEDEhSUCCEED.S",
  "UBSET OFhPERSET OF.NOT A SUBSET OFhPERSET OF.SUBSET OF OR EQUAL TOtPERSET OF OR EQUAL TO.NEITH",
  "ER A SUBSET OF NOR EQUAL TOuPERSET OF NOR EQUAL TO.SUBSET OF%NOT EQUAL TOzPERSET OF%NOT EQUA",
  "L TO.MULTISETa MULTIPLICATIONoUNION.SQUARE IMAGE OFiORIGINAL OFlIMAGE OF OR EQUAL TOuORIGINA",
  "L OF OR EQUAL TOxCAPcUP.CIRCLED PLUSeMINUSfTIMESfDIVISION SLASHnOT OPERATORmRING OPERATORnASTE",
  "RISK OPERATORrEQUALSgDASH.SQUARED PLUSeMINUSfTIMESfDOT OPERATOR.* TACK.> TACK.DOWN TACK.UP TAC",
  "K.ASSERTION.MODELS.TRUE.FORCES.TRIPLE ,BAR * TURNSTILE.@ ,BAR @ * TURNSTILE.DOES NOT PROVE.NO",
  "T TRUE.DOES NOT FORCE.NEGATED @ ,BAR @ * TURNSTILE.PRECEDES UNDER RELATION.SUCCEEDS UNDER RELA",
  "TION.NORMAL SUBGROUP OF.CONTAINS AS NORMAL SUBGROUP.NORMAL SUBGROUP OF OR EQUAL TO.CONTAINS A",
  "S NORMAL SUBGROUP OR EQUAL TO.ORIGINAL OF.IMAGE OF.MULTIMAP.HERMITIAN CONJUGATE MATRIX.INTERCA",
  "LATE.XOR.NANDdOR.* ANGLE%ARC.*^.N-ARY LOGICAL ANDdORkINTERSECTIONmUNION.DIAMOND OPERATORpOT OP",
  "ERATOR.STAR OPERATOR.DIVISION TIMES.BOWTIE.> NORMAL FACTOR SEMIDIRECT PRODUCT.* NORMAL FACTO",
  "R SEMIDIRECT PRODUCT.> SEMIDIRECT PRODUCT.* SEMIDIRECT PRODUCTxEVERSED TILDE EQUALS.CURLY LOGI",
  "CAL ORcAND.@ SUBSETePERSETiINTERSECTIONmUNION.PITCHFORK.EQUAL+PARALLEL TO.LESS-THAN%DOT.GREATE",
  "R-THAN%DOT.VERY MUCH LESS-THANjGREATER-THAN.LESS-THAN EQUAL TO OR GREATER-THAN.GREATER-THAN EQ",
  "UAL TO OR LESS-THAN.EQUAL TO OR LESS-THANjGREATER-THANmPRECEDESiSUCCEEDS.DOES NOT PRECEDE OR E",
  "QUALqSUCCEED OR EQUAL.NOT SQUARE IMAGE OF OR EQUAL TOuORIGINAL OF OR EQUAL TO.SQUARE IMAGE O",
  "F OR NOT EQUAL TOyORIGINAL OF OR NOT EQUAL TO.LESS-THAN BUT NOT EQUIVALENT TO.GREATER-THAN BU",
  "T NOT EQUIVALENT TO.PRECEDES BUT NOT EQUIVALENT TO.SUCCEEDS BUT NOT EQUIVALENT TO.NOT NORMAL S",
  "UBGROUP OF.DOES NOT CONTAIN AS NORMAL SUBGROUP.NOT NORMAL SUBGROUP OF OR EQUAL TO.DOES NOT CON",
  "TAIN AS NORMAL SUBGROUP OR EQUAL.,ELLIPSIS.MIDLINE HORIZONTAL ELLIPSIS.UP * DIAGONAL ELLIPSIS.",
  "DOWN * DIAGONAL ELLIPSIS.ELEMENT OF%LONG HORIZONTAL STROKEw,BAR AT END OF HORIZONTAL STROKE.SM",
  "ALL ELEMENT OF%,BAR AT END OF HORIZONTAL STROKE.ELEMENT OF%DOT<jOVERBAR.SMALL ELEMENT OF%OVERB",
  "AR.ELEMENT OF%UNDERBARiTWO HORIZONTAL STROKES.CONTAINS%LONG HORIZONTAL STROKEw,BAR AT END OF H",
  "ORIZONTAL STROKE.SMALL CONTAINS%,BAR AT END OF HORIZONTAL STROKE.CONTAINS%OVERBAR.SMALL CONTAI",
  "NS%OVERBAR.Z NOTATION BAG MEMBERSHIP.DIAMETER;.ELECTRIC:.HOUSE.UP:HEAD.DOWN:HEAD.PROJECTIVEjER",
  "SPECTIVE.WAVY LINE.> CEILING.* CEILING.> FLOOR.* FLOOR.BOTTOM * CROPk> CROP.TOP * CROPk> CROP.",
  "REVERSED NOT;.SQUARE LOZENGE.ARC.SEGMENTfCTOR.TELEPHONE RECORDER.POSITION INDICATOR.VIEWDATA S",
  "QUARE.PLACE OF INTEREST;.TURNED NOT;.WATCH.HOURGLASS.TOP > CORNERl* CORNER.BOTTOM > CORNERl* C",
  "ORNER.TOP HALF INTEGRAL.BOTTOM HALF INTEGRAL.FROWN.SMILE.UP:HEAD BETWEEN TWO HORIZONTAL BARS.O",
  "PTION KEY.ERASE TO THE *.X IN A RECTANGLE BOX.KEYBOARD.>-POINTING ANGLE BRACKET.*-POINTING ANG",
  "LE BRACKET.ERASE TO THE >.BENZENE RING.CYLINDRICITY.ALL AROUND-PROFILE.SYMMETRY.TOTAL RUNOUT.D",
  "IMENSION ORIGIN.CONICAL TAPER.SLOPE.COUNTERBOREeSINK.APL FUNCTIONAL_ I-BEAMgSQUISH QUADlQUAD E",
  "QUALfDIVIDEeAMONDhJOTdCIRCLElCIRCLE STILEfJOTkSLASH BARjBACKSLASH BARnQUAD SLASHfBACKSLASHjLES",
  "S-THANjGREATER-THANr>WARDS VANEo*WARDS VANEpQUAD >WARDS:p*WARDS:vCIRCLE BACKSLASHqDOWN TACK UN",
  "DERBARrELTA STILElQUAD DOWN CARETjELTAkDOWN TACK JOTnUPWARDS VANEmQUAD UPWARDS:sUP TACK OVERBA",
  "RpDEL STILEjQUAD UP CARETiDELiUP TACK JOTlDOWNWARDS VANEoQUAD DOWNWARDS:sOTE UNDERBARoDELTA UN",
  "DERBARnIAMOND UNDERBARqJOT UNDERBARmCIRCLE UNDERBARpUP SHOE JOTlQUOTE QUADkCIRCLE STARlQUAD CO",
  "LONkUP TACK DIAERESISrDEL DIAERESISnSTAR DIAERESISoJOT DIAERESISnCIRCLE DIAERESISqDOWN SHOE ST",
  "ILEp> SHOE STILEpTILDE DIAERESISpGREATER-THAN DIAERESISwCOMMA BARjDEL TILDEjZILDEfSTILE TILDEk",
  "EMICOLON UNDERBARsQUAD NOT EQUALjQUESTIONnDOWN CARET TILDEqUP CARET TILDEoIOTAeRHOdOMEGAfALPH",
  "A UNDERBARoEPSILON UNDERBARqIOTA UNDERBARnOMEGA UNDERBARoALPHA.NOT CHECK|.* ANGLE%DOWNWARDS ZI",
  "GZAG:.SHOULDERED OPEN BOX.BELL_.,LINE%MIDDLE DOT.INSERTION_.CONTINUOUS UNDERLINE_.DISCONTINUOU",
  "S UNDERLINE_.EMPHASIS_.COMPOSITION_.WHITE SQUARE%CENTRE ,LINE.ENTER_.ALTERNATIVE KEY_.HELM_.CI",
  "RCLED HORIZONTAL BAR%NOTCH.CIRCLED^ DOWN.BROKEN CIRCLE%NORTHWEST:.UNDO_.MONOSTABLE_.HYSTERESIS",
  "_.OPEN-CIRCUIT-OUTPUT H-TYPE_nL-TYPE_.PASSIVE-PULL-DOWN-OUTPUT_sUP-OUTPUT_.DIRECT CURRENT_& TW",
  "O.SOFTWARE-FUNCTION_.APL FUNCTIONAL_ QUAD.DECIMAL SEPARATOR KEY_.PREVIOUS PAGE.NEXT PAGE.PRIN",
  "T SCREEN_.CLEAR SCREEN_.> PARENTHESIS UPPER HOOKkEXTENSIONjLOWER HOOK.* PARENTHESIS UPPER HOOK",
  "kEXTENSIONjLOWER HOOK.> SQUARE BRACKET UPPER CORNERmEXTENSIONjLOWER CORNER.* SQUARE BRACKET UP",
  "PER CORNERmEXTENSIONjLOWER CORNER.> CURLY BRACKET UPPER HOOKkMIDDLE PIECEmLOWER HOOK.CURLY BRA",
  "CKET EXTENSION.* CURLY BRACKET UPPER HOOKkMIDDLE PIECEmLOWER HOOK.INTEGRAL EXTENSION.HORIZONTA",
  "L LINE EXTENSION.UPPER > OR LOWER * CURLY BRACKET SECTION.UPPER * OR LOWER > CURLY BRACKET SEC",
  "TION.SUMMATION TOPdBOTTOM.TOP SQUARE BRACKET.BOTTOM SQUARE BRACKETa OVER TOP SQUARE BRACKET.RA",
  "DICAL_ BOTTOM.> ,BOX LINE.* ,BOX LINE.HORIZONTAL SCAN LINE-1b3b7b9.DENTISTRY_ LIGHT ,AND TOP *",
  "jBOTTOM *qWITH CIRCLEuDOWN+HORIZONTAL%CIRCLE.DENTISTRY_ LIGHT UP+HORIZONTAL%CIRCLE.DENTISTRY",
  "_ LIGHT ,WITH^wDOWN+HORIZONTAL WITH^.DENTISTRY_ LIGHT UP+HORIZONTAL WITH^.DENTISTRY_ LIGHT ,AN",
  "D WAVErDOWN+HORIZONTAL%WAVE.DENTISTRY_ LIGHT UP+HORIZONTAL%WAVE.DENTISTRY_ LIGHT DOWN+HORIZONT",
  "ALtUP+HORIZONTALr,AND TOP >iBOTTOM >.SQUARE FOOT.RETURN_.EJECT_.,LINE EXTENSION.METRICAL BREVE",
  "fLONG OVER SHORTpSHORT OVER LONGpLONG OVER TWO SHORTSuTWO SHORTS OVER LONGjJOINEDqRISEMEgETRAS",
  "EMEjPENTASEME.EARTH GROUND.FUSE.TOP PARENTHESIS.BOTTOM PARENTHESIS.TOP CURLY BRACKET.BOTTOM CU",
  "RLY BRACKET.TOP TORTOISE SHELL BRACKET.BOTTOM TORTOISE SHELL BRACKET.WHITE TRAPEZIUM.BENZENE R",
  "ING%CIRCLE.STRAIGHTNESS.FLATNESS.AC CURRENT.ELECTRICAL INTERSECTION.DECIMAL EXPONENT_.~ *-POIN",
  "TING @^.~ >-POINTING @^.~ UP-POINTING @^.~ DOWN-POINTING @^.~ *-POINTING @^%,BAR.~ >-POINTIN",
  "G @^%,BAR.~ *-POINTING^%@ ,BAR.ALARM CLOCK.STOPWATCH.TIMER CLOCK.HOURGLASS%FLOWING SAND.~ MEDI",
  "UM >-POINTING^w*-POINTING^xUP-POINTING^uDOWN-POINTING^.@ ,BAR.~ SQUARE FOR STOPpCIRCLE FOR REC",
  "ORD.POWER_gON-OFF_l_jSLEEP_.OBSERVER EYE_.SYMBOL FOR NULLeSTART OF HEADINGhTEXTnEND OF TEXTdRA",
  "NSMISSIONrQUIRYhACKNOWLEDGElBELLdACKSPACEjHORIZONTAL TABULATIONvLINE FEEDj,TABULATIONtFORM FEE",
  "DjCARRIAGE RETURNpSHIFT OUTdINiDATA LINK ESCAPEpEVICE CONTROL ONEdTWOcHREEfFOURtNEGATIVE ACKNO",
  "WLEDGEuSYNCHRONOUS IDLEqEND OF TRANSMISSION BLOCKzCANCELgEND OF MEDIUMnSUBSTITUTEkESCAPEgFIL",
  "E SEPARATORoGROUP SEPARATORpRECORD SEPARATORqUNIT SEPARATORoSPACEfDELETE.BLANK_.OPEN BOX.SYMBO",
  "L FOR NEWLINEhDELETE& TWOpSUBSTITUTE& TWO(2440).OCR HOOKeCHAIRfFORKeINVERTED FORKnBELT BUCKLEk",
  "OW TIEgRANCH BANK IDENTIFICATION.OCR AMOUNT OF CHECKpDASHeCUSTOMER ACCOUNT NUMBERx@ BACKSLASH(",
  "2460).CIRCLED DIGIT ONEdTWOcHREEfFOURdIVEeSIXcEVENfEIGHTfNINEkNUMBER TENdELEVENgTWELVEfHIRTEEN",
  "iFOURTEENhIFTEENhSIXTEENgEVENTEENjEIGHTEENiNINETEENiTWENTY.PARENTHESIZED DIGIT ONEdTWOcHREEfFO",
  "URdIVEeSIXcEVENfEIGHTfNINEkNUMBER TENdELEVENgTWELVEfHIRTEENiFOURTEENhIFTEENhSIXTEENgEVENTEENjE",
  "IGHTEENiNINETEENiTWENTY.DIGIT ONE FULL STOPnTWO FULL STOPmHREE FULL STOPpFOUR FULL STOPnIVE FU",
  "LL STOPoSIX FULL STOPmEVEN FULL STOPpEIGHT FULL STOPpNINE FULL STOP.NUMBER TEN FULL STOPnELEVE",
  "N FULL STOPqTWELVE FULL STOPpHIRTEEN FULL STOPsFOURTEEN FULL STOPrIFTEEN FULL STOPrSIXTEEN FUL",
  "L STOPqEVENTEEN FULL STOPtEIGHTEEN FULL STOPsNINETEEN FULL STOPsTWENTY FULL STOP.PARENTHESIZE",
  "D LATIN SMALL$AbBbCbDbEbFbGbHbIbJbKbLbMbNbObPbQbRbSbTbUbVbWbXbYbZ.CIRCLED LATIN CAPITAL$AbBbCb",
  "DbEbFbGbHbIbJbKbLbMbNbObPbQbRbSbTbUbVbWbXbYbZqSMALL$AbBbCbDbEbFbGbHbIbJbKbLbMbNbObPbQbRbSbTbUb",
  "VbWbXbYbZuDIGIT ZERO.NEGATIVE CIRCLED NUMBER ELEVENgTWELVEfHIRTEENiFOURTEENhIFTEENhSIXTEENgEVE",
  "NTEENjEIGHTEENiNINETEENiTWENTY.@ CIRCLED DIGIT ONEdTWOcHREEfFOURdIVEeSIXcEVENfEIGHTfNINEkNUMBE",
  "R TEN.NEGATIVE CIRCLED DIGIT ZERO.BOX DRAWINGS LIGHT HORIZONTALqHEAVY HORIZONTALqLIGHT VERTICA",
  "LoHEAVY VERTICALoLIGHT TRIPLE DASH HORIZONTAL.BOX DRAWINGS HEAVY TRIPLE DASH HORIZONTAL.BOX DR",
  "AWINGS LIGHT TRIPLE DASH VERTICAL.BOX DRAWINGS HEAVY TRIPLE DASH VERTICAL.BOX DRAWINGS LIGHT Q",
  "UADRUPLE DASH HORIZONTAL.BOX DRAWINGS HEAVY QUADRUPLE DASH HORIZONTAL.BOX DRAWINGS LIGHT QUADR",
  "UPLE DASH VERTICAL.BOX DRAWINGS HEAVY QUADRUPLE DASH VERTICAL.BOX DRAWINGS LIGHT DOWN+*uDOWN L",
  "IGHT+* HEAVYvHEAVY+* LIGHT.BOX DRAWINGS HEAVY DOWN+*uLIGHT DOWN+>tDOWN LIGHT+> HEAVYuHEAVY+> L",
  "IGHTzHEAVY DOWN+>tLIGHT UP+*sUP LIGHT+* HEAVYvHEAVY+* LIGHTyHEAVY UP+*sLIGHT UP+>rUP LIGHT+> H",
  "EAVYuHEAVY+> LIGHTxHEAVY UP+>rLIGHT ,AND *y,LIGHT+* HEAVY.BOX DRAWINGS UP HEAVY+* DOWN LIGHT.B",
  "OX DRAWINGS DOWN HEAVY+* UP LIGHT.BOX DRAWINGS ,HEAVY+* LIGHT.BOX DRAWINGS DOWN LIGHT+* UP HEA",
  "VY.BOX DRAWINGS UP LIGHT+* DOWN HEAVY.BOX DRAWINGS HEAVY ,AND *yLIGHT ,AND >x,LIGHT+> HEAVY.BO",
  "X DRAWINGS UP HEAVY+> DOWN LIGHT.BOX DRAWINGS DOWN HEAVY+> UP LIGHT.BOX DRAWINGS ,HEAVY+> LIGH",
  "T.BOX DRAWINGS DOWN LIGHT+> UP HEAVY.BOX DRAWINGS UP LIGHT+> DOWN HEAVY.BOX DRAWINGS HEAVY ,AN",
  "D >xLIGHT DOWN+HORIZONTALyEFT HEAVY+* DOWN LIGHT.BOX DRAWINGS * HEAVY+> DOWN LIGHT.BOX DRAWING",
  "S DOWN LIGHT+HORIZONTAL HEAVY.BOX DRAWINGS DOWN HEAVY+HORIZONTAL LIGHT.BOX DRAWINGS * LIGHT+",
  "> DOWN HEAVY.BOX DRAWINGS > LIGHT+* DOWN HEAVY.BOX DRAWINGS HEAVY DOWN+HORIZONTALzLIGHT UP+HOR",
  "IZONTALwEFT HEAVY+* UP LIGHT.BOX DRAWINGS * HEAVY+> UP LIGHT.BOX DRAWINGS UP LIGHT+HORIZONTA",
  "L HEAVY.BOX DRAWINGS UP HEAVY+HORIZONTAL LIGHT.BOX DRAWINGS * LIGHT+> UP HEAVY.BOX DRAWING",
  "S > LIGHT+* UP HEAVY.BOX DRAWINGS HEAVY UP+HORIZONTALxLIGHT ,AND HORIZONTAL.BOX DRAWINGS > HEA",
  "VY+* ,LIGHT.BOX DRAWINGS * HEAVY+> ,LIGHT.BOX DRAWINGS ,LIGHT+HORIZONTAL HEAVY.BOX DRAWINGS U",
  "P HEAVY+DOWN HORIZONTAL LIGHT.BOX DRAWINGS DOWN HEAVY+UP HORIZONTAL LIGHT.BOX DRAWINGS ,HEAVY+",
  "HORIZONTAL LIGHT.BOX DRAWINGS > UP HEAVY+* DOWN LIGHT.BOX DRAWINGS * UP HEAVY+> DOWN LIGHT.BO",
  "X DRAWINGS > DOWN HEAVY+* UP LIGHT.BOX DRAWINGS * DOWN HEAVY+> UP LIGHT.BOX DRAWINGS DOWN LIGH",
  "T+UP HORIZONTAL HEAVY.BOX DRAWINGS UP LIGHT+DOWN HORIZONTAL HEAVY.BOX DRAWINGS * LIGHT+> ,HEAV",
  "Y.BOX DRAWINGS > LIGHT+* ,HEAVY.BOX DRAWINGS HEAVY ,AND HORIZONTAL.BOX DRAWINGS LIGHT @ DASH H",
  "ORIZONTAL.BOX DRAWINGS HEAVY @ DASH HORIZONTAL.BOX DRAWINGS LIGHT @ DASH VERTICAL.BOX DRAWING",
  "S HEAVY @ DASH VERTICAL.BOX DRAWINGS @ HORIZONTALkVERTICALnWN SINGLE+* @x@+* SINGLE.BOX DRAWIN",
  "GS @ DOWN+*tWN SINGLE+> @w@+> SINGLEzUBLE DOWN+>uUP SINGLE+* @x@+* SINGLE.BOX DRAWINGS @ UP+*t",
  "UP SINGLE+> @w@+> SINGLEz@ UP+>s,SINGLE+* @x@+* SINGLE.BOX DRAWINGS @ ,AND *z,SINGLE+> @w@+> S",
  "INGLE.BOX DRAWINGS @ ,AND >wWN SINGLE+HORIZONTAL @.BOX DRAWINGS DOWN @+HORIZONTAL SINGLE.BOX D",
  "RAWINGS @ DOWN+HORIZONTAL.BOX DRAWINGS UP SINGLE+HORIZONTAL @.BOX DRAWINGS UP @+HORIZONTAL SIN",
  "GLE.BOX DRAWINGS @ UP+HORIZONTALy,SINGLE+HORIZONTAL @.BOX DRAWINGS ,@+HORIZONTAL SINGLE.BOX DR",
  "AWINGS @ ,AND HORIZONTAL.BOX DRAWINGS LIGHT ARC DOWN+*f>nUP+>e*qDIAGONAL UPPER * TO LOWER >t",
  "> TO LOWER *zCROSSo>eUPc*fDOWNkHEAVY >eUPc*fDOWNkLIGHT >+HEAVY *uUP+HEAVY DOWNxHEAVY >+LIGHT *",
  "uUP+LIGHT DOWN.UPPER HALF BLOCK.LOWER ONE EIGHTH BLOCKmQUARTER BLOCKrTHREE EIGHTHS BLOCKtHAL",
  "F BLOCKkFIVE EIGHTHS BLOCKsTHREE QUARTERS BLOCKuSEVEN EIGHTHS BLOCK.FULL BLOCK.> SEVEN EIGHTH",
  "S BLOCKtTHREE QUARTERS BLOCKuFIVE EIGHTHS BLOCKsHALF BLOCKkTHREE EIGHTHS BLOCKtONE QUARTER BLO",
  "CKnEIGHTH BLOCK.* HALF BLOCK.LIGHT SHADE.MEDIUM SHADE.DARK SHADE.UPPER ONE EIGHTH BLOCK.* ON",
  "E EIGHTH BLOCK.QUADRANT LOWER >e*lUPPER >a+LOWER >+LOWER *u*lUPPER *+LOWER >e*.QUADRANT UPPE",
  "R *a+LOWER >a+LOWER *.~ SQUARE.WHITE SQUAREa%ROUNDED CORNERSuCONTAINING ~ SMALL SQUARE.SQUARE%",
  "HORIZONTAL FILLp,FILLnORTHOGONAL CROSSHATCH FILL.SQUARE%UPPER > TO LOWER * FILLy* TO LOWER > F",
  "ILL.SQUARE%DIAGONAL CROSSHATCH FILL.~ SMALL SQUARE.WHITE SMALL SQUARE.~ RECTANGLE.WHITE RECTAN",
  "GLE.~ ,RECTANGLE.WHITE ,RECTANGLE.~ PARALLELOGRAM.WHITE PARALLELOGRAM.~ UP-POINTING^.WHITE UP-",
  "POINTING^.~ UP-POINTING SMALL^.WHITE UP-POINTING SMALL^.~ *-POINTING^.WHITE *-POINTING^.~ *-PO",
  "INTING SMALL^.WHITE *-POINTING SMALL^.~ *-POINTING POINTER.WHITE *-POINTING POINTER.~ DOWN-POI",
  "NTING^.WHITE DOWN-POINTING^.~ DOWN-POINTING SMALL^.WHITE DOWN-POINTING SMALL^.~ >-POINTING^.WH",
  "ITE >-POINTING^.~ >-POINTING SMALL^.WHITE >-POINTING SMALL^.~ >-POINTING POINTER.WHITE >-POINT",
  "ING POINTER.~ DIAMOND.WHITE DIAMONDa CONTAINING ~ SMALL DIAMOND.FISHEYE.LOZENGE.WHITE CIRCLE.D",
  "OTTED CIRCLE.CIRCLE%,FILL.BULLSEYE.~ CIRCLE.CIRCLE%> HALF ~p* HALF ~qLOWER HALF ~qUPPER HALF ~",
  "k* QUADRANT ~.CIRCLE%ALL BUT UPPER > QUADRANT ~.> HALF ~ CIRCLE.* HALF ~ CIRCLE.INVERSE BULLET",
  "gWHITE CIRCLE.UPPER HALF INVERSE WHITE CIRCLE.LOWER HALF INVERSE WHITE CIRCLE.UPPER > QUADRAN",
  "T CIRCULAR ARC.UPPER * QUADRANT CIRCULAR ARC.LOWER * QUADRANT CIRCULAR ARC.LOWER > QUADRANT CI",
  "RCULAR ARC.UPPER HALF CIRCLE.LOWER HALF CIRCLE.~ LOWER *^o>^tUPPER >^n*^.WHITE BULLET.SQUARE%",
  "> HALF ~p* HALF ~qUPPER > DIAGONAL HALF ~.SQUARE%LOWER * DIAGONAL HALF ~.WHITE SQUARE%,BISECTI",
  "NG LINE.WHITE UP-POINTING^%DOT.UP-POINTING^%> HALF ~p* HALF ~.LARGE CIRCLE.WHITE SQUARE%UPPE",
  "R > QUADRANTtLOWER > QUADRANTn* QUADRANTuUPPER * QUADRANT.WHITE CIRCLE%UPPER > QUADRANTtLOWE",
  "R > QUADRANTn* QUADRANTuUPPER * QUADRANT.UPPER >^n*^.LOWER >^.WHITE MEDIUM SQUARE.~ MEDIUM SQU",
  "ARE.WHITE MEDIUM SMALL SQUARE.~ MEDIUM SMALL SQUARE.LOWER *^.~ SUN%RAYS.CLOUD.UMBRELLA.SNOWMAN",
  ".COMET.~ STAR.WHITE STAR.LIGHTNING.THUNDERSTORM.SUN.ASCENDING NODE.DESCENDING NODE.CONJUNCTION",
  ".OPPOSITION.~ TELEPHONE.WHITE TELEPHONE.BALLOT BOXa%CHECKfX.SALTIRE.UMBRELLA%RAIN DROPS.HOT BE",
  "VERAGE.WHITE SHOGI PIECE.~ SHOGI PIECE.SHAMROCK.REVERSED ROTATED FLORAL HEART BULLET.~ > POINT",
  "ING INDEXt* POINTING INDEX.WHITE > POINTING INDEXtUP POINTING INDEXr* POINTING INDEXuDOWN POIN",
  "TING INDEX.SKULL+CROSSBONES.CAUTION;.RADIOACTIVE;.BIOHAZARD;.CADUCEUS.ANKH.ORTHODOX CROSS.CH",
  "I RHOgROSS OF LORRAINEiJERUSALEM.STAR+CRESCENT.FARSI_.ADI SHAKTI.HAMMER+SICKLE.PEACE_.YIN YANG",
  ".TRIGRAM FOR HEAVENgLAKEeFIREeTHUNDERhWINDdATERfMOUNTAINiEARTH.WHEEL OF DHARMAnITE FROWNING FA",
  "CEnSMILING FACE.~ SMILING FACE.WHITE SUN%RAYS.FIRST QUARTER MOON.LAST QUARTER MOON.MERCURY.FEM",
  "ALE;.EARTH.MALE;.JUPITER.SATURN.URANUS.NEPTUNE.PLUTO.ARIES.TAURUS.GEMINI.CANCER.LEO.VIRGO.LIBR",
  "A.SCORPIUShAGITTARIUS.CAPRICORN.AQUARIUS.PISCES.WHITE CHESS KINGeQUEENfROOKeBISHOPgKNIGHTgPAWN",
  ".~ CHESS KINGeQUEENfROOKeBISHOPgKNIGHTgPAWNkSPADE SUIT.WHITE HEART SUITkDIAMOND SUIT.~ CLUB SU",
  "IT.WHITE SPADE SUIT.~ HEART SUITkDIAMOND SUIT.WHITE CLUB SUIT.HOT SPRINGS.QUARTER NOTE.EIGHT",
  "H NOTE.BEAMED EIGHTH NOTESmSIXTEENTH NOTES.MUSIC FLAT;jNATURAL;mSHARP;.WEST SYRIAC CROSS.EAS",
  "T SYRIAC CROSS.UNIVERSAL RECYCLING_.RECYCLING_ FOR TYPE-1 PLASTICSk2 PLASTICSk3 PLASTICSk4 PLA",
  "STICSk5 PLASTICSk6 PLASTICSk7 PLASTICSpGENERIC MATERIALS.~ UNIVERSAL RECYCLING_.RECYCLED PAPER",
  "_.PARTIALLY-RECYCLED PAPER_.PERMANENT PAPER;.WHEELCHAIR_.DIE FACE-1b2b3b4b5b6.WHITE CIRCLE%DO",
  "T *jTWO DOTS.~ CIRCLE%WHITE DOT *pTWO WHITE DOTS.MONOGRAM FOR YANGdIN.DIGRAM FOR GREATER YANGm",
  "LESSER YINcANGlGREATER YIN.WHITE FLAG.~ FLAG.HAMMER+PICK.ANCHOR.CROSSED SWORDS.STAFF OF AESCUL",
  "APIUStCALES.ALEMBIC.FLOWER.GEAR.STAFF OF HERMES.ATOM_.FLEUR-DE-LIS.OUTLINED WHITE STAR.THREE L",
  "INES CONVERGING *f>.WARNING;.HIGH VOLTAGE;.@D FEMALE;lMALE;.INTERLOCKED FEMALE+MALE;.MALE+FEMA",
  "LE;.MALE%STROKE;eAND MALE+FEMALE;.,MALE%STROKE;.HORIZONTAL MALE%STROKE;.MEDIUM WHITE CIRCLEm",
  "~ CIRCLEmSMALL WHITE CIRCLEyARRIAGE_.DIVORCE_.UNMARRIED PARTNERSHIP_.COFFIN.FUNERAL URN.NEUTER",
  ".CERES.PALLAS.JUNO.VESTA.CHIRON.~ MOON LILITH.SEXTILEfMISEXTILE.QUINCUNX.SESQUIQUADRATEnOCCE",
  "R BALL.BASEBALL.SQUARED KEY.WHITE DRAUGHTS MANdKING.~ DRAUGHTS MANdKING.SNOWMAN WITHOUT SNOWtU",
  "N BEHIND CLOUD.RAIN.~ SNOWMAN.THUNDER CLOUD+RAINvURNED WHITE SHOGI PIECEr~ SHOGI PIECE.WHITE D",
  "IAMOND IN SQUARE.CROSSING LANES.DISABLED CAR.OPHIUCHUS.PICK.CAR SLIDING.HELMET%WHITE CROSS.CIR",
  "CLED CROSSING LANESvHAINS.NO ENTRY.ALTERNATE ONE-WAY > WAY TRAFFIC.~ TWO-WAY > WAY TRAFFIC.WHI",
  "TE TWO-WAY > WAY TRAFFIC.~ > LANE MERGE.WHITE > LANE MERGE.DRIVE SLOW;.HEAVY WHITE DOWN-POINTI",
  "NG^.> CLOSED ENTRY.SQUARED SALTIRE.FALLING DIAGONAL IN WHITE CIRCLE IN ~ SQUARE.~ TRUCK.RESTRI",
  "CTED > ENTRY-1b2.ASTRONOMICAL_ FOR URANUS.HEAVY CIRCLE%STROKE+TWO DOTS<.PENTAGRAM.*-HANDED INT",
  "ERLACED PENTAGRAM.>-HANDED INTERLACED PENTAGRAM.INVERTED PENTAGRAM.~ CROSS ON SHIELD.SHINTO SH",
  "RINE.CHURCHfASTLE.HISTORIC SITE.GEAR WITHOUT HUBh HANDLES.MAP_ FOR LIGHTHOUSEyOUNTAIN.UMBRELL",
  "A ON GROUND.FOUNTAINhLAG IN HOLElERRY.SAILBOAThQUARE FOUR CORNERSsKIER.ICE SKATE.PERSON%BALL.T",
  "ENT.JAPANESE BANK_.HEADSTONE GRAVEYARD_.FUEL PUMP.CUP ON ~ SQUARE.WHITE FLAG%HORIZONTAL MIDDL",
  "E ~ STRIPE.~ SAFETY SCISSORS.UPPER BLADE SCISSORS.~ SCISSORS.LOWER BLADE SCISSORS.WHITE SCISSO",
  "RSiHEAVY CHECK|.TELEPHONE LOCATION;wAPE DRIVE.AIRPLANE.ENVELOPE.RAISED FISTeHAND.VICTORY HAND.",
  "WRITING HAND.LOWER * PENCIL.PENCIL.UPPER * PENCIL.WHITE NIB.~ NIB.CHECK|.HEAVY CHECK|.MULTIPLI",
  "CATION X.HEAVY MULTIPLICATION X.BALLOT X.HEAVY BALLOT X.OUTLINED GREEK CROSS.HEAVY GREEK CROSS",
  ".OPEN CENTRE CROSS.HEAVY OPEN CENTRE CROSS.LATIN CROSS.SHADOWED WHITE LATIN CROSS.OUTLINED LAT",
  "IN CROSS.MALTESE CROSS.STAR OF DAVID.FOUR TEARDROP-SPOKED ASTERISKyBALLOON-SPOKED ASTERISK.HEA",
  "VY FOUR BALLOON-SPOKED ASTERISK.FOUR CLUB-SPOKED ASTERISK.~ FOUR POINTED STAR.WHITE FOUR POINT",
  "ED STAR.SPARKLEShTRESS OUTLINED WHITE STAR.CIRCLED WHITE STAR.OPEN CENTRE ~ STAR.~ CENTRE WHIT",
  "E STAR.OUTLINED ~ STAR.HEAVY OUTLINED ~ STAR.PINWHEEL STAR.SHADOWED WHITE STAR.HEAVY ASTERISK.",
  "OPEN CENTRE ASTERISK.EIGHT SPOKED ASTERISKpPOINTED ~ STARkPINWHEEL STAR.SIX POINTED ~ STAR.EIG",
  "HT POINTED RECTILINEAR ~ STAR.HEAVY EIGHT POINTED RECTILINEAR ~ STAR.TWELVE POINTED ~ STAR.SIX",
  "TEEN POINTED ASTERISK.TEARDROP-SPOKED ASTERISK.OPEN CENTRE TEARDROP-SPOKED ASTERISK.HEAVY TEAR",
  "DROP-SPOKED ASTERISK.SIX PETALLED ~+WHITE FLORETTE.~ FLORETTE.WHITE FLORETTE.EIGHT PETALLED OU",
  "TLINED ~ FLORETTE.CIRCLED OPEN CENTRE EIGHT POINTED STAR.HEAVY TEARDROP-SPOKED PINWHEEL ASTERI",
  "SK.SNOWFLAKE.TIGHT TRIFOLIATE SNOWFLAKE.HEAVY CHEVRON SNOWFLAKE.SPARKLE.HEAVY SPARKLE.BALLOON-",
  "SPOKED ASTERISK.EIGHT TEARDROP-SPOKED PROPELLER ASTERISK.HEAVY EIGHT TEARDROP-SPOKED PROPELLE",
  "R ASTERISK.CROSS|.SHADOWED WHITE CIRCLE.NEGATIVE SQUARED CROSS|.LOWER * DROP-SHADOWED WHITE SQ",
  "UARE.UPPER * DROP-SHADOWED WHITE SQUARE.LOWER * SHADOWED WHITE SQUARE.UPPER * SHADOWED WHITE S",
  "QUARE.~ QUESTION| ORNAMENT.WHITE QUESTION| ORNAMENTwEXCLAMATION| ORNAMENT.~ DIAMOND MINUS WHIT",
  "E X.HEAVY EXCLAMATION|_.LIGHT ,BAR.MEDIUM ,BAR.HEAVY ,BARmSINGLE TURNED COMMA QUOTATION| ORNAM",
  "ENT.HEAVY SINGLE COMMA QUOTATION| ORNAMENT.HEAVY @ TURNED COMMA QUOTATION| ORNAMENT.HEAVY @ CO",
  "MMA QUOTATION| ORNAMENT.HEAVY LOW SINGLE COMMA QUOTATION| ORNAMENT.HEAVY LOW @ COMMA QUOTATION",
  "| ORNAMENT.CURVED STEM PARAGRAPH; ORNAMENT.HEAVY EXCLAMATION| ORNAMENTzHEART EXCLAMATION| ORNA",
  "MENT.HEAVY ~ HEART.ROTATED HEAVY ~ HEART BULLET.FLORAL HEART.ROTATED FLORAL HEART BULLET.MEDIU",
  "M > PARENTHESIS ORNAMENTz* PARENTHESIS ORNAMENT.MEDIUM FLATTENED > PARENTHESIS ORNAMENTz* PARE",
  "NTHESIS ORNAMENT.MEDIUM >-POINTING ANGLE BRACKET ORNAMENT.MEDIUM *-POINTING ANGLE BRACKET ORNA",
  "MENT.HEAVY >-POINTING ANGLE QUOTATION| ORNAMENT.HEAVY *-POINTING ANGLE QUOTATION| ORNAMENT.HEA",
  "VY >-POINTING ANGLE BRACKET ORNAMENT.HEAVY *-POINTING ANGLE BRACKET ORNAMENT.LIGHT > TORTOIS",
  "E SHELL BRACKET ORNAMENT.LIGHT * TORTOISE SHELL BRACKET ORNAMENT.MEDIUM > CURLY BRACKET ORNAME",
  "NT.MEDIUM * CURLY BRACKET ORNAMENT.DINGBAT NEGATIVE CIRCLED DIGIT ONEdTWOcHREEfFOURdIVEeSIXcEV",
  "ENfEIGHTfNINEkNUMBER TEN.DINGBAT CIRCLED SANS-SERIF DIGIT ONEdTWOcHREEfFOURdIVEeSIXcEVENfEIGHT",
  "fNINEkNUMBER TEN.DINGBAT NEGATIVE CIRCLED SANS-SERIF DIGIT ONEdTWOcHREEfFOURdIVEeSIXcEVENfEIGH",
  "TfNINEkNUMBER TEN.HEAVY WIDE-HEADED *WARDS:.HEAVY PLUS;jMINUS;kDIVISION;nSOUTH EAST:q*WARDS:qN",
  "ORTH EAST:.DRAFTING POINT *WARDS:.HEAVY ROUND-TIPPED *WARDS:.TRIANGLE-HEADED *WARDS:.HEAVY^-HE",
  "ADED *WARDS:.DASHED^-HEADED *WARDS:.HEAVY DASHED^-HEADED *WARDS:.~ *WARDS:.THREE-D TOP-LIGHTE",
  "D *WARDS:HEAD.THREE-D BOTTOM-LIGHTED *WARDS:HEAD.~ *WARDS:HEAD.HEAVY ~ CURVED DOWNWARDS+*WARDS",
  ":.HEAVY ~ CURVED UPWARDS+*WARDS:.SQUAT ~ *WARDS:.HEAVY CONCAVE-POINTED ~ *WARDS:.*-SHADED WHIT",
  "E *WARDS:.>-SHADED WHITE *WARDS:.BACK-TILTED SHADOWED WHITE *WARDS:.FRONT-TILTED SHADOWED WHIT",
  "E *WARDS:.HEAVY LOWER *-SHADOWED WHITE *WARDS:.HEAVY UPPER *-SHADOWED WHITE *WARDS:.NOTCHED LO",
  "WER *-SHADOWED WHITE *WARDS:.CURLY LOOP.NOTCHED UPPER *-SHADOWED WHITE *WARDS:.CIRCLED HEAVY W",
  "HITE *WARDS:.WHITE-FEATHERED *WARDS:.~-FEATHERED SOUTH EAST:q*WARDS:qNORTH EAST:.HEAVY ~-FEATH",
  "ERED SOUTH EAST:q*WARDS:qNORTH EAST:.TEARDROP-BARBED *WARDS:.HEAVY TEARDROP-SHANKED *WARDS:.WE",
  "DGE-TAILED *WARDS:.HEAVY WEDGE-TAILED *WARDS:.OPEN-OUTLINED *WARDS:.@ CURLY LOOP.THREE DIMENSI",
  "ONAL ANGLE.WHITE^ CONTAINING SMALL WHITE^.PERPENDICULAR.OPEN SUBSETePERSET.> S-SHAPED BAG DELI",
  "MITER.* S-SHAPED BAG DELIMITER.OR%DOT INSIDE.REVERSE SOLIDUS PRECEDING SUBSET.SUPERSET PRECEDI",
  "NG SOLIDUS.,BAR%HORIZONTAL STROKE.MATHEMATICAL RISING DIAGONAL.LONG DIVISION.MATHEMATICAL FALL",
  "ING DIAGONAL.SQUARED LOGICAL ANDdOR.WHITE DIAMOND%CENTRED DOT.AND%DOT.ELEMENT OF OPENING UPWAR",
  "DS.LOWER * CORNER%DOT.UPPER > CORNER%DOT.> OUTER JOIN.* OUTER JOIN.FULL OUTER JOIN.LARGE UP TA",
  "CKhDOWN TACK.>+* @ TURNSTILEqTACKoMULTIMAPmONG * TACKk> TACK.UP TACK%CIRCLE<.LOZENGE DIVIDED B",
  "Y HORIZONTAL RULE.WHITE CONCAVE-SIDED DIAMONDa%>WARDS TICKo*WARDS TICK.WHITE SQUARE%>WARDS TIC",
  "Ko*WARDS TICK.MATHEMATICAL > WHITE SQUARE BRACKETz* WHITE SQUARE BRACKET.MATHEMATICAL > ANGL",
  "E BRACKETs* ANGLE BRACKETt> @ ANGLE BRACKETz* @ ANGLE BRACKET.MATHEMATICAL > WHITE TORTOISE SH",
  "ELL BRACKET.MATHEMATICAL * WHITE TORTOISE SHELL BRACKET.MATHEMATICAL > FLATTENED PARENTHESIS.M",
  "ATHEMATICAL * FLATTENED PARENTHESIS.UPWARDS QUADRUPLE:.DOWNWARDS QUADRUPLE:.ANTICLOCKWISE GAPP",
  "ED CIRCLE:.CLOCKWISE GAPPED CIRCLE:.*:%CIRCLED PLUS.LONG >WARDS:p*WARDS:q> *:mWARDS @:w*WARD",
  "S @:x> * @:tWARDS: FROM BARy*WARDS: FROM BARz>WARDS @: FROM BAR.LONG *WARDS @: FROM BARvSQUIGG",
  "LE:.BRAILLE PATTERN BLANKfDOTS-1b2b12c3b13c23c123d4b14c24c124d34c134d234d1234e5b15c25c125d35c1",
  "35d235d1235e45c145d245d1245e345d1345e2345e12345f6b16c26c126d36c136d236d1236e46c146d246d1246e34",
  "6d1346e2346e12346f56c156d256d1256e356d1356e2356e12356f456d1456e2456e12456f3456e13456f23456f123",
  "456g7b17c27c127d37c137d237d1237e47c147d247d1247e347d1347e2347e12347f57c157d257d1257e357d1357e2",
  "357e12357f457d1457e2457e12457f3457e13457f23457f123457g67c167d267d1267e367d1367e2367e12367f467d",
  "1467e2467e12467f3467e13467f23467f123467g567d1567e2567e12567f3567e13567f23567f123567g4567e14567",
  "f24567f124567g34567f134567g234567g1234567h8b18c28c128d38c138d238d1238e48c148d248d1248e348d1348",
  "e2348e12348f58c158d258d1258e358d1358e2358e12358f458d1458e2458e12458f3458e13458f23458f123458g68",
  "c168d268d1268e368d1368e2368e12368f468d1468e2468e12468f3468e13468f23468f123468g568d1568e2568e12",
  "568f3568e13568f23568f123568g4568e14568f24568f124568g34568f134568g234568g1234568h78c178d278d127",
  "8e378d1378e2378e12378f478d1478e2478e12478f3478e13478f23478f123478g578d1578e2578e12578f3578e135",
  "78f23578f123578g4578e14578f24578f124578g34578f134578g234578g1234578h678d1678e2678e12678f3678e1",
  "3678f23678f123678g4678e14678f24678f124678g34678f134678g234678g1234678h5678e15678f25678f125678g",
  "35678f135678g235678g1235678h45678f145678g245678g1245678h345678g1345678h2345678h12345678.*WARD",
  "S TWO-HEADED:%,STROKEp@ ,STROKE.>WARDS @:%,STROKE.*WARDS @:%,STROKE.> * @:%,STROKE.*WARDS TWO-",
  "HEADED: FROM BAR.>WARDS @: FROM BAR.*WARDS @: FROM BAR.DOWNWARDS:%HORIZONTAL STROKE.UPWARDS:%H",
  "ORIZONTAL STROKE.UPWARDS TRIPLE:.DOWNWARDS TRIPLE:.>WARDS @ DASH:.*WARDS @ DASH:.>WARDS TRIPL",
  "E DASH:.*WARDS TRIPLE DASH:qWO-HEADED TRIPLE DASH:.*WARDS:%DOTTED STEM.UPWARDS: TO BAR.DOWNWAR",
  "DS: TO BAR.*WARDS:%TAIL%,STROKEp@ ,STROKE.*WARDS TWO-HEADED:%TAILa%,STROKEp@ ,STROKE.>WARDS:-T",
  "AIL.*WARDS:-TAIL.>WARDS @:-TAIL.*WARDS @:-TAIL.>WARDS: TO ~ DIAMOND.*WARDS: TO ~ DIAMOND.>WARD",
  "S: FROM BAR TO ~ DIAMOND.*WARDS: FROM BAR TO ~ DIAMOND.NORTH WEST+SOUTH EAST:zEAST+SOUTH WEST:",
  "zWEST:%HOOKuEAST:%HOOK.SOUTH EAST:%HOOKuWEST:%HOOK.NORTH WEST:+NORTH EAST:.NORTH EAST:+SOUTH E",
  "AST:.SOUTH EAST:+SOUTH WEST:.SOUTH WEST:+NORTH WEST:.RISING DIAGONAL CROSSING FALLING DIAGONAL",
  ".FALLING DIAGONAL CROSSING RISING DIAGONAL.SOUTH EAST: CROSSING NORTH EAST:.NORTH EAST: CROSSI",
  "NG SOUTH EAST:.FALLING DIAGONAL CROSSING NORTH EAST:.RISING DIAGONAL CROSSING SOUTH EAST:.NORT",
  "H EAST: CROSSING NORTH WEST:.NORTH WEST: CROSSING NORTH EAST:.WAVE: POINTING DIRECTLY *.ARRO",
  "W POINTING *WARDS THEN CURVING UPWARDShDOWNWARDS.ARROW POINTING DOWNWARDS THEN CURVING >WARDSj",
  "*WARDS.*-SIDE ARC CLOCKWISE:.>-SIDE ARC ANTICLOCKWISE:.TOP ARC ANTICLOCKWISE:.BOTTOM ARC ANTIC",
  "LOCKWISE:.TOP ARC CLOCKWISE:%MINUS.TOP ARC ANTICLOCKWISE:%PLUS.LOWER * SEMICIRCULAR CLOCKWISE:",
  ".LOWER > SEMICIRCULAR ANTICLOCKWISE:.ANTICLOCKWISE CLOSED CIRCLE:.CLOCKWISE CLOSED CIRCLE:.*WA",
  "RDS:< SHORT >WARDS:.>WARDS:< SHORT *WARDS:.SHORT *WARDS:< >WARDS:.*WARDS:%PLUS=.>WARDS:%PLUS=.",
  "*WARDS: THROUGH X.> *: THROUGH SMALL CIRCLE.UPWARDS TWO-HEADED: FROM SMALL CIRCLE.> BARB U",
  "P * BARB DOWN HARPOON.> BARB DOWN * BARB UP HARPOON.UP BARB * DOWN BARB > HARPOON.UP BARB > DO",
  "WN BARB * HARPOON.> BARB UP * BARB UP HARPOON.UP BARB * DOWN BARB * HARPOON.> BARB DOWN * BAR",
  "B DOWN HARPOON.UP BARB > DOWN BARB > HARPOON.>WARDS HARPOON%BARB UP TO BAR.*WARDS HARPOON%BAR",
  "B UP TO BAR.UPWARDS HARPOON%BARB * TO BAR.DOWNWARDS HARPOON%BARB * TO BAR.>WARDS HARPOON%BAR",
  "B DOWN TO BAR.*WARDS HARPOON%BARB DOWN TO BAR.UPWARDS HARPOON%BARB > TO BAR.DOWNWARDS HARPOON%",
  "BARB > TO BAR.>WARDS HARPOON%BARB UP FROM BAR.*WARDS HARPOON%BARB UP FROM BAR.UPWARDS HARPOON%",
  "BARB * FROM BAR.DOWNWARDS HARPOON%BARB * FROM BAR.>WARDS HARPOON%BARB DOWN FROM BAR.*WARDS HAR",
  "POON%BARB DOWN FROM BAR.UPWARDS HARPOON%BARB > FROM BAR.DOWNWARDS HARPOON%BARB > FROM BAR.>WAR",
  "DS HARPOON%BARB UP< >WARDS HARPOON%BARB DOWN.UPWARDS HARPOON%BARB > BESIDE UPWARDS HARPOON%BAR",
  "B *.*WARDS HARPOON%BARB UP< *WARDS HARPOON%BARB DOWN.DOWNWARDS HARPOON%BARB > BESIDE DOWNWARD",
  "S HARPOON%BARB *.>WARDS HARPOON%BARB UP< *WARDS HARPOON%BARB UP.>WARDS HARPOON%BARB DOWN< *WAR",
  "DS HARPOON%BARB DOWN.*WARDS HARPOON%BARB UP< >WARDS HARPOON%BARB UP.*WARDS HARPOON%BARB DOWN",
  "< >WARDS HARPOON%BARB DOWN.>WARDS HARPOON%BARB UP< LONG DASHsDOWN= LONG DASH.*WARDS HARPOON%BA",
  "RB UP< LONG DASHsDOWN= LONG DASH.UPWARDS HARPOON%BARB > BESIDE DOWNWARDS HARPOON%BARB *.DOWNWA",
  "RDS HARPOON%BARB > BESIDE UPWARDS HARPOON%BARB *.* @:%ROUNDED HEAD.EQUALS;< *WARDS:.TILDE OPER",
  "ATOR< *WARDS:.>WARDS:< TILDE OPERATOR.*WARDS:< TILDE OPERATORoALMOST EQUAL TO.LESS-THAN< >WARD",
  "S:.>WARDS: THROUGH LESS-THAN.GREATER-THAN< *WARDS:.SUBSET< *WARDS:.>WARDS: THROUGH SUBSET.SUPE",
  "RSET< >WARDS:.> FISH TAIL.* FISH TAIL.UP FISH TAIL.DOWN FISH TAIL.TRIPLE ,BAR DELIMITER.Z NOTA",
  "TION SPOTeTYPE COLON.> WHITE CURLY BRACKET.* WHITE CURLY BRACKET.> WHITE PARENTHESIS.* WHITE P",
  "ARENTHESIS.Z NOTATION > IMAGE BRACKETs* IMAGE BRACKETt> BINDING BRACKETu* BINDING BRACKET.> SQ",
  "UARE BRACKET%UNDERBAR.* SQUARE BRACKET%UNDERBAR.> SQUARE BRACKET%TICK IN TOP CORNER.* SQUARE B",
  "RACKET%TICK IN BOTTOM CORNER.> SQUARE BRACKET%TICK IN BOTTOM CORNER.* SQUARE BRACKET%TICK IN T",
  "OP CORNER.> ANGLE BRACKET%DOT.* ANGLE BRACKET%DOT.> ARC LESS-THAN BRACKET.* ARC GREATER-THAN B",
  "RACKET.@ > ARC GREATER-THAN BRACKET.@ * ARC LESS-THAN BRACKET.> ~ TORTOISE SHELL BRACKET.* ~ T",
  "ORTOISE SHELL BRACKET.DOTTED FENCE.,ZIGZAG LINE.MEASURED ANGLE OPENING >.* ANGLE VARIANT%SQUAR",
  "E.MEASURED * ANGLE%DOT.ANGLE%S INSIDEsCUTE ANGLE.SPHERICAL ANGLE OPENING >eUP.TURNED ANGLE.REV",
  "ERSED ANGLE.ANGLE%UNDERBAR.REVERSED ANGLE%UNDERBAR.OBLIQUE ANGLE OPENING UPcDOWN.MEASURED ANGL",
  "E%OPEN ARM ENDING IN: POINTING UP+*f>lDOWN+*f>n*+UPm>+UPl*+DOWNo>+DOWN.REVERSED EMPTY SET.EMPT",
  "Y SET%OVERBARhSMALL CIRCLE<s*:<r>:<.CIRCLE%HORIZONTAL BARuD ,BARmPARALLELiREVERSE SOLIDUSpPERP",
  "ENDICULARp DIVIDED BY HORIZONTAL BAR+TOP HALF DIVIDED BY ,BAR.CIRCLE%SUPERIMPOSED XuD ANTICLOC",
  "KWISE-ROTATED DIVISION;.UP: THROUGH CIRCLE.CIRCLED WHITE BULLETmBULLETgLESS-THANjGREATER-THANo",
  "%SMALL CIRCLE TO THE *zTWO HORIZONTAL STROKES TO THE *.SQUARED RISING DIAGONAL SLASHvFALLING D",
  "IAGONAL SLASHwASTERISKiSMALL CIRCLElQUARE.TWO JOINED SQUARESrRIANGLE%DOT<jUNDERBAR.S IN^.TRIAN",
  "GLE%SERIFS AT BOTTOM.*^< >^.>^ BESIDE ,BAR.,BAR BESIDE *^.BOWTIE%> HALF ~p* HALF ~.~ BOWTIE.TI",
  "MES%> HALF ~p* HALF ~.WHITE HOURGLASS.~ HOURGLASS.> WIGGLY FENCE.* WIGGLY FENCE.> @ WIGGLY FEN",
  "CE.* @ WIGGLY FENCE.INCOMPLETE INFINITY.TIE OVER INFINITY.INFINITY NEGATED%,BAR.@-ENDED MULTIM",
  "AP.SQUARE%CONTOURED OUTLINE.INCREASES AS.SHUFFLE PRODUCT.EQUALS;+SLANTED PARALLELa%TILDE<.IDEN",
  "TICAL TO+SLANTED PARALLEL.GLEICH STARK.THERMODYNAMIC.DOWN-POINTING^%> HALF ~p* HALF ~.~ DIAMON",
  "D%DOWN:xLOZENGE.WHITE CIRCLE%DOWN:.~ CIRCLE%DOWN:.ERROR-BARRED WHITE SQUAREm~ SQUAREmWHITE DIA",
  "MONDn~ DIAMONDnWHITE CIRCLEm~ CIRCLE.RULE-DELAYEDlEVERSE SOLIDUS OPERATOR.SOLIDUS%OVERBAR.REVE",
  "RSE SOLIDUS%HORIZONTAL STROKE.BIG SOLIDUShREVERSE SOLIDUS.@ PLUS.TRIPLE PLUS.>-POINTING CURVE",
  "D ANGLE BRACKET.*-POINTING CURVED ANGLE BRACKET.TINY.MINY.N-ARY CIRCLED DOT OPERATORmPLUS OPER",
  "ATORnTIMES OPERATORwUNION OPERATOR%DOTdPLUSySQUARE INTERSECTION OPERATORvUNION OPERATOR.TWO LO",
  "GICAL+OPERATORmOR OPERATOR.N-ARY TIMES OPERATOR.MODULO TWO SUM.SUMMATION%INTEGRAL.QUADRUPLE IN",
  "TEGRAL OPERATOR.FINITE PART INTEGRAL.INTEGRAL%@ STROKEsAVERAGE%SLASH.CIRCULATION FUNCTION.ANTI",
  "CLOCKWISE INTEGRATION.LINE INTEGRATION%RECTANGULAR PATH AROUND POLE.LINE INTEGRATION%SEMICIRCU",
  "LAR PATH AROUND POLE.LINE INTEGRATION NOT INCLUDING THE POLE.INTEGRAL AROUND A POINT OPERATOR.",
  "QUATERNION INTEGRAL OPERATOR.INTEGRAL%>WARDS:%HOOKzTIMES;kINTERSECTIONmUNIONfOVERBARhUNDERBAR.",
  "JOIN.LARGE >^ OPERATOR.Z NOTATION SCHEMA COMPOSITIONlPIPINGfROJECTION.PLUS;%SMALL CIRCLE<sCIRC",
  "UMFLEX ACCENT<xTILDE<lDOT=jTILDE=lSUBSCRIPT TWOn~^.MINUS;%COMMA<lDOT=jFALLING DOTSmRISING DOTS",
  ".PLUS; IN > HALF CIRCLEq* HALF CIRCLE.VECTOR OR CROSS PRODUCT.MULTIPLICATION;%DOT<jUNDERBAR.SE",
  "MIDIRECT PRODUCT%BOTTOM CLOSED.SMASH PRODUCT.MULTIPLICATION; IN > HALF CIRCLEq* HALF CIRCLE.CI",
  "RCLED MULTIPLICATION;%CIRCUMFLEX ACCENT.MULTIPLICATION; IN @ CIRCLE.CIRCLED DIVISION;.PLUS; IN",
  "^.MINUS; IN^vULTIPLICATION; IN^.INTERIOR PRODUCT.*HAND INTERIOR PRODUCT.Z NOTATION RELATIONA",
  "L COMPOSITION.AMALGAMATION OR COPRODUCT.INTERSECTION%DOT.UNION%MINUS;kOVERBAR.INTERSECTION%OVE",
  "RBARhLOGICAL AND.UNION%LOGICAL ORpABOVE INTERSECTION.INTERSECTION< UNION.UNION< BAR< INTERSECT",
  "ION.INTERSECTION< BAR< UNION.UNION BESIDE+JOINED%UNION.INTERSECTION BESIDE+JOINED%INTERSECTION",
  ".CLOSED UNION%SERIFSrINTERSECTION%SERIFS.@ SQUARE INTERSECTIONmUNION.CLOSED UNION%SERIFS+SMAS",
  "H PRODUCT.LOGICAL AND%DOT<sOR%DOT<.@ LOGICAL ANDdOR.TWO INTERSECTING LOGICAL ANDdOR.SLOPING LA",
  "RGE ORcAND.LOGICAL OR OVERLAPPING LOGICAL AND.LOGICAL AND%MIDDLE STEMuOR%MIDDLE STEMtAND%HORIZ",
  "ONTAL DASHyOR%HORIZONTAL DASHxAND%@ OVERBARoUNDERBARi@ UNDERBAR.SMALL VEE%UNDERBAR.LOGICAL OR%",
  "@ OVERBARhUNDERBAR.Z NOTATION DOMAIN ANTIRESTRICTIONwRANGE ANTIRESTRICTION.EQUALS;%DOT=.IDENTI",
  "CAL%DOT<.TRIPLE HORIZONTAL BAR%@ ,STROKEwTRIPLE ,STROKE.TILDE OPERATOR%DOT<jRISING DOTS.SIMILA",
  "R MINUS SIMILAR.CONGRUENT%DOT<.EQUALS%ASTERISK.ALMOST EQUAL TO%CIRCUMFLEX ACCENT.APPROXIMATEL",
  "Y EQUAL OR EQUAL TO.EQUALS;< PLUS;.PLUS;< EQUALS;.EQUALS;< TILDE OPERATOR.@ COLON EQUAL.TWO CO",
  "NSECUTIVE EQUALS;S.THREE CONSECUTIVE EQUALS;S.EQUALS;%TWO DOTS<+TWO DOTS=.EQUIVALENT%FOUR DOTS",
  "<.LESS-THAN%CIRCLE INSIDE.GREATER-THAN%CIRCLE INSIDE.LESS-THAN%QUESTION|<.GREATER-THAN%QUESTIO",
  "N|<.LESS-THAN OR SLANTED EQUAL TO.GREATER-THAN OR SLANTED EQUAL TO.LESS-THAN OR SLANTED EQUA",
  "L TO%DOT INSIDE.GREATER-THAN OR SLANTED EQUAL TO%DOT INSIDE.LESS-THAN OR SLANTED EQUAL TO%DOT<",
  ".GREATER-THAN OR SLANTED EQUAL TO%DOT<.LESS-THAN OR SLANTED EQUAL TO%DOT< *.GREATER-THAN OR SL",
  "ANTED EQUAL TO%DOT< >.LESS-THAN OR APPROXIMATE.GREATER-THAN OR APPROXIMATE.LESS-THAN+SINGLE-LI",
  "NE NOT EQUAL TO.GREATER-THAN+SINGLE-LINE NOT EQUAL TO.LESS-THAN+NOT APPROXIMATE.GREATER-THAN+N",
  "OT APPROXIMATE.LESS-THAN< @-LINE EQUAL< GREATER-THAN.GREATER-THAN< @-LINE EQUAL< LESS-THAN.LES",
  "S-THAN< SIMILAR OR EQUAL.GREATER-THAN< SIMILAR OR EQUAL.LESS-THAN< SIMILAR< GREATER-THAN.GREAT",
  "ER-THAN< SIMILAR< LESS-THAN.LESS-THAN< GREATER-THAN< @-LINE EQUAL.GREATER-THAN< LESS-THAN< @-L",
  "INE EQUAL.LESS-THAN< SLANTED EQUAL< GREATER-THAN< SLANTED EQUAL.GREATER-THAN< SLANTED EQUAL< L",
  "ESS-THAN< SLANTED EQUAL.SLANTED EQUAL TO OR LESS-THANjGREATER-THANmLESS-THAN%DOT INSIDEzGREATE",
  "R-THAN%DOT INSIDE.@-LINE EQUAL TO OR LESS-THANjGREATER-THANySLANTED EQUAL TO OR LESS-THANjGREA",
  "TER-THAN.SIMILAR OR LESS-THANjGREATER-THANpABOVE LESS-THAN< EQUALS;.SIMILAR< GREATER-THAN< EQU",
  "ALS;.@ NESTED LESS-THANjGREATER-THANmLESS-THAN%UNDERBAR.GREATER-THAN OVERLAPPING LESS-THANvBES",
  "IDE LESS-THAN.LESS-THAN CLOSED BY CURVE.GREATER-THAN CLOSED BY CURVE.LESS-THAN CLOSED BY CURVE",
  "< SLANTED EQUAL.GREATER-THAN CLOSED BY CURVE< SLANTED EQUAL.SMALLER THAN.LARGER THAN.SMALLER T",
  "HAN OR EQUAL TO.LARGER THAN OR EQUAL TO.EQUALS;%BUMPY<.PRECEDES< SINGLE-LINE EQUALS;.SUCCEEDS",
  "< SINGLE-LINE EQUALS;.PRECEDES< SINGLE-LINE NOT EQUAL TO.SUCCEEDS< SINGLE-LINE NOT EQUAL TO.PR",
  "ECEDES< EQUALS;.SUCCEEDS< EQUALS;.PRECEDES< NOT EQUAL TO.SUCCEEDS< NOT EQUAL TO.PRECEDES< ALMO",
  "ST EQUAL TO.SUCCEEDS< ALMOST EQUAL TO.PRECEDES< NOT ALMOST EQUAL TO.SUCCEEDS< NOT ALMOST EQUA",
  "L TO.@ PRECEDESiSUCCEEDS.SUBSET%DOTnPERSET%DOTpBSET%PLUS;=zPERSET%PLUS;=.SUBSET%MULTIPLICATION",
  ";=.SUPERSET%MULTIPLICATION;=.SUBSET OF OR EQUAL TO%DOT<.SUPERSET OF OR EQUAL TO%DOT<.SUBSET OF",
  "< EQUALS;zPERSET OF< EQUALS;.SUBSET OF< TILDE OPERATOR.SUPERSET OF< TILDE OPERATOR.SUBSET OF",
  "< ALMOST EQUAL TO.SUPERSET OF< ALMOST EQUAL TO.SUBSET OF< NOT EQUAL TO.SUPERSET OF< NOT EQUA",
  "L TO.SQUARE > OPEN BOX OPERATORw* OPEN BOX OPERATOR.CLOSED SUBSETePERSETgBSET OR EQUAL TOqPERS",
  "ET OR EQUAL TO.SUBSET< SUPERSETtPERSET< SUBSETtBSET< SUBSETrPERSET< SUPERSEToBESIDE SUBSETgAN",
  "D JOINED BY DASH%SUBSET.ELEMENT OF OPENING DOWNWARDS.PITCHFORK%TEE TOP.TRANSVERSAL INTERSECTIO",
  "N.FORKING.NONFORKING.SHORT > TACKjDOWN TACKjUP TACK.PERPENDICULAR%S.,BAR TRIPLE * TURNSTILE.",
  "@ ,BAR > TURNSTILE.,BAR @ > TURNSTILE.@ ,BAR @ > TURNSTILE.LONG DASH FROM > MEMBER OF @ VERTIC",
  "AL.SHORT DOWN TACK%OVERBARwUP TACK%UNDERBARnABOVE SHORT DOWN TACK.@ DOWN TACKjUP TACKhSTROKE N",
  "OT;.REVERSED @ STROKE NOT;.DOES NOT DIVIDE%REVERSED NEGATION SLASH.,LINE%CIRCLE<fBELOW.DOWN TA",
  "CK%CIRCLE=.PARALLEL%HORIZONTAL STROKErTILDE OPERATOR.TRIPLE ,BAR BINARY RELATIONpWITH HORIZONT",
  "AL STROKE.TRIPLE COLON OPERATORoNESTED LESS-THANjGREATER-THAN.@-LINE SLANTED LESS-THAN OR EQUA",
  "L TOvGREATER-THAN OR EQUAL TO.TRIPLE SOLIDUS BINARY RELATION.LARGE TRIPLE ,BAR OPERATOR.@ SOLI",
  "DUS OPERATOR.WHITE ,BAR.N-ARY WHITE ,BARxORTH EAST WHITE:qWEST WHITE:.SOUTH EAST WHITE:qWEST W",
  "HITE:.> * WHITE:sWARDS ~:.UPWARDS ~:.DOWNWARDS ~:.NORTH EAST ~:qWEST ~:.SOUTH EAST ~:qWEST ~:.",
  "> * ~:.UP DOWN ~:.*WARDS:%TIP DOWNWARDSjUPWARDS.>WARDS:%TIP DOWNWARDSjUPWARDS.SQUARE%TOP HAL",
  "F ~oBOTTOM HALF ~rUPPER * DIAGONAL HALF ~.SQUARE%LOWER > DIAGONAL HALF ~.DIAMOND%> HALF ~p* HA",
  "LF ~qTOP HALF ~oBOTTOM HALF ~.DOTTED SQUARE.~ LARGE SQUARE.WHITE LARGE SQUARE.~ VERY SMALL SQU",
  "ARE.WHITE VERY SMALL SQUARE.~ PENTAGON.WHITE PENTAGONiHEXAGON.~ HEXAGON.HORIZONTAL ~ HEXAGON.",
  "~ LARGE CIRCLEmMEDIUM DIAMOND.WHITE MEDIUM DIAMOND.~ MEDIUM LOZENGE.WHITE MEDIUM LOZENGE.~ SMA",
  "LL DIAMONDhLOZENGE.WHITE SMALL LOZENGE.~ HORIZONTAL ELLIPSE.WHITE HORIZONTAL ELLIPSE.~ ,ELLIPS",
  "E.WHITE ,ELLIPSE.>:%SMALL CIRCLE.THREE >WARDS:S.>:%CIRCLED PLUS.LONG >WARDS SQUIGGLE:.>WARDS T",
  "WO-HEADED:%,STROKEp@ ,STROKE.>WARDS TWO-HEADED: FROM BARoTRIPLE DASH:.>WARDS:%DOTTED STEMlTAIL",
  "%,STROKEp@ ,STROKE.>WARDS TWO-HEADED:%TAILa%,STROKEp@ ,STROKE.>WARDS: THROUGH X.WAVE: POINTIN",
  "G DIRECTLY >.EQUALS;< >WARDS:.REVERSE TILDE OPERATOR< >WARDS:.>WARDS:< REVERSE ALMOST EQUAL TO",
  ".*WARDS: THROUGH GREATER-THANmSUPERSET.>WARDS QUADRUPLE:.*WARDS QUADRUPLE:zEVERSE TILDE OPERAT",
  "OR< *WARDS:.*WARDS:< REVERSE ALMOST EQUAL TO.TILDE OPERATOR< >WARDS:.>WARDS:< ALMOST EQUAL TOp",
  "REVERSE TILDE OPERATOR.*WARDS:< REVERSE TILDE OPERATOR.DOWNWARDS^-HEADED ZIGZAG:.SHORT SLANTE",
  "D NORTH:tBACKSLANTED SOUTH:.WHITE MEDIUM STAR.~ SMALL STAR.WHITE SMALL STAR.~ *-POINTING PENTA",
  "GON.WHITE *-POINTING PENTAGON.HEAVY LARGE CIRCLEmOVAL%OVAL INSIDEvCIRCLE%CIRCLE INSIDEtaD SALT",
  "IRE.SLANTED NORTH:%HOOKED HEAD.BACKSLANTED SOUTH:%HOOKED TAIL.SLANTED NORTH:%HORIZONTAL TAIL.B",
  "ACKSLANTED SOUTH:%HORIZONTAL TAIL.BENT: POINTING DOWNWARDS THEN NORTH EAST.SHORT BENT: POINTIN",
  "G DOWNWARDS THEN NORTH EAST.>WARDS^-HEADED:.UPWARDS^-HEADED:.*WARDS^-HEADED:.DOWNWARDS^-HEADED",
  ":.> *^-HEADED:.UP DOWN^-HEADED:.NORTH WEST^-HEADED:.NORTH EAST^-HEADED:.SOUTH EAST^-HEADED:.SO",
  "UTH WEST^-HEADED:.>WARDS^-HEADED DASHED:.UPWARDS^-HEADED DASHED:.*WARDS^-HEADED DASHED:.DOWNWA",
  "RDS^-HEADED DASHED:.CLOCKWISE^-HEADED OPEN CIRCLE:.ANTICLOCKWISE^-HEADED OPEN CIRCLE:.>WARDS^-",
  "HEADED: TO BAR.UPWARDS^-HEADED: TO BAR.*WARDS^-HEADED: TO BAR.DOWNWARDS^-HEADED: TO BAR(2B76).",
  "NORTH WEST^-HEADED: TO BAR.NORTH EAST^-HEADED: TO BAR.SOUTH EAST^-HEADED: TO BAR.SOUTH WEST^-H",
  "EADED: TO BAR.>WARDS^-HEADED:%@ HORIZONTAL STROKE.UPWARDS^-HEADED:%@ HORIZONTAL STROKE.*WARDS^",
  "-HEADED:%@ HORIZONTAL STROKE.DOWNWARDS^-HEADED:%@ HORIZONTAL STROKE.HORIZONTAL TAB KEY.,TAB KE",
  "Y.>WARDS^-HEADED: OVER *WARDS^-HEADED:.UPWARDS^-HEADED: >WARDS OF DOWNWARDS^-HEADED:.*WARDS^-H",
  "EADED: OVER >WARDS^-HEADED:.DOWNWARDS^-HEADED: >WARDS OF UPWARDS^-HEADED:.>WARDS^-HEADED PAIRE",
  "D:S.UPWARDS^-HEADED PAIRED:S.*WARDS^-HEADED PAIRED:S.DOWNWARDS^-HEADED PAIRED:S.>WARDS ~ CIRCL",
  "ED WHITE:.UPWARDS ~ CIRCLED WHITE:.*WARDS ~ CIRCLED WHITE:.DOWNWARDS ~ CIRCLED WHITE:.ANTICLOC",
  "KWISE^-HEADED * U-SHAPED:uBOTTOM U-SHAPED:v> U-SHAPED:tTOP U-SHAPED:.RETURN >e*.NEWLINE >e*.FO",
  "UR CORNER:S CIRCLING ANTICLOCKWISE.*WARDS ~:(2B97).SYMBOL FOR TYPE A ELECTRONICS.THREE-D TOP-L",
  "IGHTED >WARDS EQUILATERAL:HEAD.THREE-D *-LIGHTED UPWARDS EQUILATERAL:HEAD.THREE-D TOP-LIGHTE",
  "D *WARDS EQUILATERAL:HEAD.THREE-D >-LIGHTED DOWNWARDS EQUILATERAL:HEAD.~ >WARDS EQUILATERAL:HE",
  "AD.~ UPWARDS EQUILATERAL:HEAD.~ *WARDS EQUILATERAL:HEAD.~ DOWNWARDS EQUILATERAL:HEAD.DOWNWARDS",
  "^-HEADED:%LONG TIP >WARDSj*WARDS.UPWARDS^-HEADED:%LONG TIP >WARDSj*WARDS.>WARDS^-HEADED:%LON",
  "G TIP UPWARDS.*WARDS^-HEADED:%LONG TIP UPWARDS.>WARDS^-HEADED:%LONG TIP DOWNWARDS.*WARDS^-HEAD",
  "ED:%LONG TIP DOWNWARDS.~ CURVED DOWNWARDS+>WARDS:p*WARDS:.~ CURVED UPWARDS+>WARDS:p*WARDS:.~ C",
  "URVED >WARDS+UPWARDS:.~ CURVED *WARDS+UPWARDS:.~ CURVED >WARDS+DOWNWARDS:.~ CURVED *WARDS+DOWN",
  "WARDS:.RIBBON: DOWN >e*kUP >e*i> UPh* UPi> DOWNj* DOWN.UPWARDS WHITE: FROM BAR%HORIZONTAL BAR.",
  "UP:HEAD IN A RECTANGLE BOX.OVERLAPPING WHITE SQUAREShAND ~ SQUARESx~ SQUARES.BALLOT BOX%LIGH",
  "T X.CIRCLED XbBOLD X.~ SQUARE CENTREDoDIAMOND CENTRED.TURNED ~ PENTAGON.HORIZONTAL ~ OCTAGON.",
  "~ OCTAGONhMEDIUM UP-POINTING^ CENTRED.~ MEDIUM DOWN-POINTING^ CENTRED.~ MEDIUM >-POINTING^ CEN",
  "TRED.~ MEDIUM *-POINTING^ CENTRED.NEPTUNE& TWO.TOP HALF ~ CIRCLE.BOTTOM HALF ~ CIRCLE.LIGHT FO",
  "UR POINTED ~ CUSP.ROTATED LIGHT FOUR POINTED ~ CUSP.WHITE FOUR POINTED CUSP.ROTATED WHITE FOU",
  "R POINTED CUSP.SQUARE POSITION INDICATOR.UNCERTAINTY;.GROUP|.PLUTO& TWOcHREEfFOURdIVE.TRANSPLU",
  "TO.PROSERPINA.ASTRAEA.HYGIEA.PHOLUS.NESSUS.WHITE MOON SELENA.~ DIAMOND ON CROSS.TRUE LIGHT MOO",
  "N ARTA.CUPIDO.HADES.ZEUS.KRONOS.APOLLONgDMETOS.VULCANUS.POSEIDON.> HALF ~ STAR.* HALF ~ STAR.S",
  "TAR%> HALF ~p* HALF ~.>WARDS TWO-HEADED: WITH^:HEADS.UPWARDS TWO-HEADED: WITH^:HEADS.*WARDS TW",
  "O-HEADED: WITH^:HEADS.DOWNWARDS TWO-HEADED: WITH^:HEADS.ERIS& ONEdTWO.SEDNA.RUSSIAN ASTROLOGIC",
  "AL_ VIGINTILEjNOVILEgQUINTILEiBINOVILEiSENTAGONiTREDECILE.EQUALS;%INFINITY=.UNITED_.SEPARATED_",
  ".@D_.PASSED_.REVERSED * ANGLE.HELLSCHREIBER PAUSE_.GLAGOLITIC CAPITAL$AZUdBUKYeVEDEeGLAGOLIhDO",
  "BROfYESTUfZHIVETEhDZELOfZEMLJAgIZHEdNITIAL IZHElbDJERVIgKAKOeLJUDIJEhMYSLITEhNASHIfONUdPOKOJIg",
  "RITSIfSLOVOfTVRIDOgUKUdFRITUfHERUeOTUdPEcSHTAeTSIdCHRIVIgSHAdYERUbIdATIeSPIDERY HAkYUcSMALL YU",
  "Sa%TAILtYOcIOTATED SMALL YUSrBIG YUShIOTATED BIG YUSpFITAeIZHITSAhSHTAPIChTROKUTASTI AmLATINAT",
  "E MYSLITEqCAUDATE CHRIVI.GLAGOLITIC SMALL$AZUdBUKYeVEDEeGLAGOLIhDOBROfYESTUfZHIVETEhDZELOfZEML",
  "JAgIZHEdNITIAL IZHElbDJERVIgKAKOeLJUDIJEhMYSLITEhNASHIfONUdPOKOJIgRITSIfSLOVOfTVRIDOgUKUdFRITU",
  "fHERUeOTUdPEcSHTAeTSIdCHRIVIgSHAdYERUbIdATIeSPIDERY HAkYUcSMALL YUSa%TAILtYOcIOTATED SMALL YUS",
  "rBIG YUShIOTATED BIG YUSpFITAeIZHITSAhSHTAPIChTROKUTASTI AmLATINATE MYSLITEqCAUDATE CHRIVI.LAT",
  "IN CAPITAL$L%@ BAR.LATIN SMALL$L%@ BAR.LATIN CAPITAL$L%MIDDLE TILDEtP%STROKEnR%TAIL.LATIN SMAL",
  "L$A%STROKEnT%DIAGONAL STROKE.LATIN CAPITAL$H%DESCENDER.LATIN SMALL$H%DESCENDER.LATIN CAPITAL$K",
  "%DESCENDER.LATIN SMALL$K%DESCENDER.LATIN CAPITAL$Z%DESCENDER.LATIN SMALL$Z%DESCENDER.LATIN CAP",
  "ITAL$ALPHAfM%HOOKlTURNED AaLPHA.LATIN SMALL$V%* HOOK.LATIN CAPITAL$W%HOOK.LATIN SMALL$W%HOOKlV",
  "%CURLyCAPITAL$HALF HvSMALL$HALF HgTAILLESS PHImE%NOTCHmTURNED R%TAILsO%LOW RING INSIDE.LATIN$S",
  "MALL CAPITAL TURNED E.LATIN SUBSCRIPT SMALL$J.MODIFIER$CAPITAL V.LATIN CAPITAL$S%SWASH TAILrZ%",
  "SWASH TAIL.COPTIC CAPITAL$ALFAtSMALL$ALFArCAPITAL$VIDAtSMALL$VIDArCAPITAL$GAMMAuSMALL$GAMMAsCA",
  "PITAL$DALDAuSMALL$DALDAsCAPITAL$EIEsSMALL$EIEqCAPITAL$SOUsSMALL$SOUqCAPITAL$ZATAtSMALL$ZATArCA",
  "PITAL$HATEtSMALL$HATErCAPITAL$THETHEvSMALL$THETHEtCAPITAL$IAUDAuSMALL$IAUDAsCAPITAL$KAPAtSMALL",
  "$KAPArCAPITAL$LAULAuSMALL$LAULAsCAPITAL$MIrSMALL$MIpCAPITAL$NIrSMALL$NIpCAPITAL$KSIsSMALL$KSIq",
  "CAPITAL$OqSMALL$OoCAPITAL$PIrSMALL$PIpCAPITAL$ROrSMALL$ROpCAPITAL$SIMAtSMALL$SIMArCAPITAL$TAUs",
  "SMALL$TAUqCAPITAL$UArSMALL$UApCAPITAL$FIrSMALL$FIpCAPITAL$KHIsSMALL$KHIqCAPITAL$PSIsSMALL$PSIq",
  "CAPITAL$OOUsSMALL$OOUqCAPITAL$DIALECT-P ALEF.COPTIC SMALL$DIALECT-P ALEF.COPTIC CAPITAL$OLD CO",
  "PTIC AIN.COPTIC SMALL$OLD COPTIC AIN.COPTIC CAPITAL$CRYPTOGRAMMIC EIE.COPTIC SMALL$CRYPTOGRAMM",
  "IC EIE.COPTIC CAPITAL$DIALECT-P KAPA.COPTIC SMALL$DIALECT-P KAPA.COPTIC CAPITAL$DIALECT-P NI.C",
  "OPTIC SMALL$DIALECT-P NIzCAPITAL$CRYPTOGRAMMIC NI.COPTIC SMALL$CRYPTOGRAMMIC NI.COPTIC CAPITAL",
  "$OLD COPTIC OOU.COPTIC SMALL$OLD COPTIC OOU.COPTIC CAPITAL$SAMPIuSMALL$SAMPIsCAPITAL$CROSSED S",
  "HEI.COPTIC SMALL$CROSSED SHEIzCAPITAL$OLD COPTIC SHEI.COPTIC SMALL$OLD COPTIC SHEI.COPTIC CAPI",
  "TAL$OLD COPTIC ESH.COPTIC SMALL$OLD COPTIC ESH.COPTIC CAPITAL$AKHMIMIC KHEI.COPTIC SMALL$AKHMI",
  "MIC KHEI.COPTIC CAPITAL$DIALECT-P HORI.COPTIC SMALL$DIALECT-P HORI.COPTIC CAPITAL$OLD COPTIC H",
  "ORI.COPTIC SMALL$OLD COPTIC HORI.COPTIC CAPITAL$OLD COPTIC HA.COPTIC SMALL$OLD COPTIC HA.COPTI",
  "C CAPITAL$L-SHAPED HA.COPTIC SMALL$L-SHAPED HAyCAPITAL$OLD COPTIC HEI.COPTIC SMALL$OLD COPTI",
  "C HEI.COPTIC CAPITAL$OLD COPTIC HAT.COPTIC SMALL$OLD COPTIC HAT.COPTIC CAPITAL$OLD COPTIC GANG",
  "IA.COPTIC SMALL$OLD COPTIC GANGIA.COPTIC CAPITAL$OLD COPTIC DJA.COPTIC SMALL$OLD COPTIC DJA.CO",
  "PTIC CAPITAL$OLD COPTIC SHIMA.COPTIC SMALL$OLD COPTIC SHIMA.COPTIC CAPITAL$OLD NUBIAN SHIMA.CO",
  "PTIC SMALL$OLD NUBIAN SHIMA.COPTIC CAPITAL$OLD NUBIAN NGI.COPTIC SMALL$OLD NUBIAN NGI.COPTIC C",
  "APITAL$OLD NUBIAN NYI.COPTIC SMALL$OLD NUBIAN NYI.COPTIC CAPITAL$OLD NUBIAN WAU.COPTIC SMALL$O",
  "LD NUBIAN WAU.COPTIC_ KAIdMI ROfPI ROfSTAUROShTAU ROgKHI ROgSHIMA SIMArCAPITAL$CRYPTOGRAMMIC S",
  "HEI.COPTIC SMALL$CRYPTOGRAMMIC SHEI.COPTIC CAPITAL$CRYPTOGRAMMIC GANGIA.COPTIC SMALL$CRYPTOGRA",
  "MMIC GANGIA.COPTIC COMBINING NI<iSPIRITUS ASPERfLENISxAPITAL$BOHAIRIC KHEI.COPTIC SMALL$BOHAIR",
  "IC KHEI(2CF9).COPTIC OLD NUBIAN FULL STOPjDIRECT QUESTION|uINDIRECT QUESTION|wVERSE DIVIDERyFR",
  "ACTION ONE HALFqULL STOPjMORPHOLOGICAL DIVIDER.GEORGIAN SMALL$ANcBANdGANdDONdENcVINdZENdTANdIN",
  "cKANdLASdMANdNARdONcPARdZHAReRAEdSANdTARdUNcPHAReKHAReGHANeQARdSHINeCHINdANdJILdCILcHAReXANdJH",
  "ANeHAEcEbIEdWEcHARcOE(2D27)dYN(2D2D)cAEN(2D30).TIFINAGH$YAaBaHcGaHHfBERBER ACADEMY YAJsYAJbDaH",
  "bDaHeEYcAFbKdTUAREG YAKkYAKHHdHdBERBER ACADEMY YAHsTUAREG YAHkYAHHcAbKHeTUAREG YAKHlYAQdTUARE",
  "G YAQkYIbAZHeAHAGGAR YAZHmTUAREG YAZHlYALbMbNdTUAREG YAGNcNGlYAPcUbARaRcGHeTUAREG YAGHlAYER YA",
  "GHjYASaSbHcTaHcCHcTTcVbWbYbZdTAWELLEMET YAZoYAZZdEbO(2D6F)jMODIFIER$LABIALIZATION|.TIFINAGH SE",
  "PARATOR|(2D7F)oCONSONANT JOINER.ETHIOPIC SYLLABLE LOAdMOAdROAdSOAcHOAeBOAdTOAdCOAdNOAcYOAeGLOT",
  "TAL OAkZOAdDOAcDOAeJOAdTHOAeCHOAePHOAdOAdGGWAbIbEEb(2DA0)eSSAbUbIbAAcEEbbO(2DA8)dCCAbUbIbAAcEE",
  "bbO(2DB0)dZZAbUbIbAAcEEbbO(2DB8)dCCHAbUbIbAAcEEbbO(2DC0)eQYAbUbIbAAcEEbbO(2DC8)dKYAbUbIbAAcEEb",
  "bO(2DD0)dXYAbUbIbAAcEEbbO(2DD8)dGYAbUbIbAAcEEbbO(2DE0).COMBINING CYRILLIC$BEcVEcGHEdDEcZHEcEcK",
  "AcELbMbNcObPEcERbScTEcHAcTSEdCHEdSHAbCHAfFITAeES-TEfAbIEcDJERVfMONOGRAPH UKmYATcUcIOTIFIED AkL",
  "ITTLE YUSkBIG YUShIOTIFIED BIG YUS.* ANGLE SUBSTITUTION|ERtDOTTED SUBSTITUTION|ER.> SUBSTITUTI",
  "ON BRACKET.* SUBSTITUTION BRACKET.> DOTTED SUBSTITUTION BRACKET.* DOTTED SUBSTITUTION BRACKET.",
  "RAISED INTERPOLATION|ERuDOTTED INTERPOLATION|ER.DOTTED TRANSPOSITION|ER.> TRANSPOSITION BRACKE",
  "T.* TRANSPOSITION BRACKET.RAISED SQUARE.> RAISED OMISSION BRACKET.* RAISED OMISSION BRACKET.ED",
  "ITORIAL CORONIS.PARAGRAPHOS.FORKED PARAGRAPHOS.REVERSED FORKED PARAGRAPHOS.HYPODIASTOLE.DOTTE",
  "D OBELOSlWNWARDS ANCORA.UPWARDS ANCORA.DOTTED *-POINTING ANGLE.@ OBLIQUE HYPHEN.INVERTED INTER",
  "ROBANG.PALM BRANCH.HYPHEN%DIAERESIS.TILDE%RING<.> LOW PARAPHRASE BRACKET.* LOW PARAPHRASE BRAC",
  "KET.TILDE%DOT<fBELOW.> ,BAR%QUILL.* ,BAR%QUILL.TOP > HALF BRACKETr* HALF BRACKET.BOTTOM > HAL",
  "F BRACKETr* HALF BRACKET.> SIDEWAYS U BRACKET.* SIDEWAYS U BRACKET.> @ PARENTHESIS.* @ PARENTH",
  "ESIS.TWO DOTS OVER ONE DOT PUNCTUATION.ONE DOT OVER TWO DOTS PUNCTUATION.SQUARED FOUR DOT PUNC",
  "TUATION.FIVE DOT|.REVERSED QUESTION|.,TILDE.RING POINT.WORD SEPARATOR MIDDLE DOT.TURNED COMMA.",
  "RAISED DOTdCOMMA.TURNED SEMICOLON.DAGGER%> GUARDk* GUARD.TURNED DAGGERmOP HALF SECTION;uWO-E",
  "M DASHkHREE-EM DASH.STENOGRAPHIC FULL STOP.,SIX DOTS.WIGGLY ,LINE.CAPITULUM.@ HYPHEN.REVERSE",
  "D COMMA.@ LOW-REVERSED-9 QUOTATION|.DASH%> UPTURN.@ SUSPENSION|.INVERTED LOW KAVYKAa%KAVYKA<.L",
  "OW KAVYKAa%DOT.@ STACKED COMMAsTTED SOLIDUS.TRIPLE DAGGER.MEDIEVAL COMMA.PARAGRAPHUS|pUNCTUS E",
  "LEVATUS|.CORNISH VERSE DIVIDERuROSS PATTY%* CROSSBARo> CROSSBAR.TIRONIAN; CAPITAL ET.MEDIEVA",
  "L EXCLAMATION|qQUESTION|.> SQUARE BRACKET%STROKE.* SQUARE BRACKET%STROKE.> SQUARE BRACKET%@ ST",
  "ROKE.* SQUARE BRACKET%@ STROKE.TOP HALF > PARENTHESISq* PARENTHESIS.BOTTOM HALF > PARENTHESISq",
  "* PARENTHESIS.OBLIQUE HYPHEN(2E80).CJK RADICAL REPEATgCLIFFfSECOND ONEdTWOcHREEmPERSONgBOXdTAB",
  "LEfKNIFE ONEdTWOjDIVINATIONkSEALdMALL ONEdTWOjLAME ONEdTWOcHREEfFOURjSNAKEfTHREADgSNOUT ONEdTW",
  "OjHEART ONEdTWOiANDeRAP(2E9B)dCHOKEfSUNdMOONeDEATHfMOTHERgCIVILIANiWATER ONEdTWOjFIREePAW ONEd",
  "TWOhSIMPLIFIED HALF TREE TRUNK.CJK RADICAL COWdDOGdJADEeBOLT OF CLOTHnEYEdSPIRIT ONEdTWOkBAMBO",
  "OgSILKeC-SIMPLIFIED SILKrNET ONEdTWOcHREEfFOURiMESHeSHEEPfRAMdEWEdOLDdBRUSH ONEdTWOjMEATdORTAR",
  "gGRASS ONEdTWOcHREElTIGERfCLOTHEShWEST ONEdTWOiC-SIMPLIFIED SEEqSIMPLIFIED HORNpHORNeC-SIMPLIF",
  "IED SPEECHfHELLsFOOTeC-SIMPLIFIED CARTrSIMPLIFIED WALKpWALK ONEdTWOiCITYd-SIMPLIFIED GOLDrLON",
  "G ONEdTWOiC-SIMPLIFIED LONGeGATErMOUND ONEdTWOjRAINeBLUEeC-SIMPLIFIED TANNED LEATHERoLEAFeWIND",
  "eFLYqEAT ONEdTWOcHREEjC-SIMPLIFIED EATqHEADeC-SIMPLIFIED HORSEsBONEeGHOSTfC-SIMPLIFIED FISHeBI",
  "RDeSALTrSIMPLIFIED WHEATfYELLOWrC-SIMPLIFIED FROGrJ-SIMPLIFIED EVENrC-SIMPLIFIED EVENrJ-SIMPLI",
  "FIED TOOTHsC-SIMPLIFIED TOOTHsJ-SIMPLIFIED DRAGONtC-SIMPLIFIED DRAGONtTURTLEgJ-SIMPLIFIED TURT",
  "LEtC-SIMPLIFIED TURTLE(2F00).KANGXI RADICAL ONEdLINEeDOTdSLASHeECONDgHOOKeTWOdLIDdMANdLEGSeENT",
  "EReIGHTfDOWN BOXiCOVERfICEdTABLEfOPEN BOXiKNIFEfPOWERfWRAPeSPOONf* OPEN BOXoHIDING ENCLOSUREqT",
  "ENdDIVINATIONkSEALeCLIFFfPRIVATEhAGAINfMOUTHfENCLOSUREiARTHfSCHOLARhGOa SLOWLYjEVENINGhBIGdWOM",
  "ANfCHILDfROOFeINCHeSMALLfLAMEeCORPSEgSPROUTgMOUNTAINiRIVERfWORKeONESELFhTURBANgDRYdSHORT THREA",
  "DmDOTTED CLIFFmLONG STRIDElTWO HANDSjSHOOTfBOWdSNOUTfBRISTLEhSTEPeHEARTeALBERDhDOOReHANDeBRANC",
  "HgRAPdSCRIPTgDIPPERgAXEdSQUAREgNOTdSUNcAYdMOONeTREEeLACKeSTOPeDEATHfWEAPONgDO NOTgCOMPAREhFURd",
  "CLANeSTEAMfWATERfFIREeCLAWeFATHERg@ XiHALF TREE TRUNKpSLICEfFANGeCOWdDOGdPROFOUNDiJADEeMELONfT",
  "ILEeSWEETfLIFEeUSEdFIELDfBOLT OF CLOTHnSICKNESSiDOTTED TENTlWHITEfSKINeDISHeEYEdSPEARfARROWfST",
  "ONEePIRITgTRACKfGRAINfCAVEeSTANDfBAMBOOgRICEeSILKeJARdNETdSHEEPfFEATHERhOLDdANDdPLOWeEARdBRUSH",
  "fMEATdINISTERiSELFeARRIVEgMORTARgTONGUEgOPPOSEgBOATeSTOPPINGiCOLORfGRASSfTIGERfINSECTgBLOODfWA",
  "LK ENCLOSUREoCLOTHEShWESTeSEEdHORNeSPEECHgVALLEYgBEANePIGdBADGERgSHELLfREDcUNdFOOTeBODYeCARTeB",
  "ITTERgMORNINGhWALKeCITYeWINEeDISTINGUISHlVILLAGEhGOLDeLONGeGATEeMOUNDfSLAVEeHORT TAILED BIRDrR",
  "AINeBLUEeWRONGfFACEeLEATHERhTANNED LEATHERoLEEKeSOUNDfLEAFeWINDeFLYdEATdHEADeFRAGRANTiHORSEfBO",
  "NEeTALLeHAIReFIGHTfSACRIFICIAL WINEqCAULDRONiGHOSTfFISHeBIRDeSALTeDEEReWHEATfHEMPeYELLOWgMILLE",
  "Tg~fEMBROIDERYkFROGeTRIPODgDRUMeRATdNOSEeEVENeTOOTHfDRAGONgTURTLEgFLUTE(2FF0).IDEOGRAPHIC DESC",
  "RIPTION CHARACTER > TO *nABOVE TO=o> TO MIDDLE+*yABOVE TO MIDDLE AND=zFULL SURROUNDnSURROUND F",
  "ROM<fBELOWf>eUPPER >e*lLOWER >yOVERLAID"]

end Readiness.CharacterName
