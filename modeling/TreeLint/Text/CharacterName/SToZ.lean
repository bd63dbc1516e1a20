/-
  TreeLint/Text/CharacterName/SToZ.lean
  =====================================
  **Names of characters that begin with S to Z.**  The tables are those of Unicode 14.
-/

namespace TreeLint.Text.CharacterName

def namesS : List String := [
  "aS IN TRIANGLEbAFETY PINhVESTcGITTARIUScILBOATcKE BOTTLE AND CUPcLT SHAKEReIREdUTING FACE",
  "cMARITAN ABBREVIATION MARKkLETTER ALAFrBAAsITrDALATrFIrGAMANrINsTsYrKAAFrLABATrMIMrNUNrQUFrRISHrSHAN",
  "sINGAATrTAAFsITsSAADIYrYUTrZENkMARK DAGESHpEPENTHETIC YUTpINr-ALAFpNEQUDAApOCCLUSION",
  "lODIFIER LETTER EPENTHETIC YUT+aI+aSHORT AkPUNCTUATION AFSAAQxNGEDyNAAUxRKAANUxTMAAUwBAU",
  "wMELODIC QITSAwNEQUDAAwQITSAwSHIYYAALAAxOF MASHFAATwTURUwZAEFxIQAAkVOWEL SIGN AwAvEvIvLONG A+bA+aE",
  "+aI+aUvOwVERLONG A+fAvSHORT AwUKUNvUcNDWICHdS-SERIF HEAVY DOUBLE COMMA QUOTATION MARK ORNAMENT",
  "yTURNED COMMA QUOTATION MARK ORNAMENTrLOW DOUBLE COMMA QUOTATION MARK ORNAMENTlINTERROBANG ORNAMENT",
  "cRIcTELLITEj ANTENNAdURNcURASHTRA CONSONANT SIGN HAARUlDANDAmIGIT EIGHTrFIVEsOURrNINErONErSEVENsIX",
  "rTHREEsWOrZEROmOUBLE DANDAlLETTER AtAtItUsBAtHAsCAtHAsDAtDAuHAtHAsEtEsGAtHAsHAsItIsJAtHAsKAtHAsLAtLA",
  "sMAsNAtGAtNAtYAsOtOsPAtHAsRAsSAtHAtSAsTAtHAtTAuHAsUtUsVAtOCALIC L+bL+aR+bRsYAlSIGN ANUSVARA",
  "qCANDRABINDUqVIRAMAsSARGAlVOWEL SIGN AAxIxUwExEwIxIwOxOwUxUwVOCALIC L+fL+eR+fReOPODcXOPHONEbCALESdRF",
  "cHOOLg SATCHELcIcOOTERdRPIONgUScREENeWDRIVERdIPT CAPITAL BpEpFpHpIpLpMpPpRhLIGATURE ET ORNAMENT",
  "hSMALL EnGnLnOdOLLdUPLEbEALdTcCOND PLACE MEDALdTION SIGNeORcDNAcE-NO-EVIL MONKEYdDLINGcGMENT",
  "hED DIGIT EIGHTqFIVErOURqNINEqONEqSEVENrIXqTHREErWOqZEROcLFIEcMICOLON",
  "eDIRECT PRODUCT WITH BOTTOM CLOSEDeSEXTILEcPARATED SYMBOLcRIOUS FACE WITH SYMBOLS COVERING MOUTH",
  "dVICE MARKcSAME DOTdQUIQUADRATEcT MINUSeTRANSMIT STATEcWING NEEDLEcXTILEbGCbHADOWED WHITE CIRCLE",
  "pLATIN CROSSpSTARdLLOW PAN OF FOODdMROCKdRADA ABBREVIATION SIGNiCONTINUATION SIGNiDANDAjIGIT EIGHT",
  "oFIVEpOURoNINEoONEoSEVENpIXoTHREEpWOoZEROjOUBLE DANDAiEKAMjXTRA SHORT VOWEL MARKiHEADSTROKEiLETTER A",
  "qAqIqUpBAqHApCAqHApDAqDArHAqHApEpGAqHApHApIqIpJAqHApKAqHApLAqLApMApNAqGAqNAqYApOpPAqHApRApSAqHAqSA",
  "pTAqHAqTArHApUqUpVAqOCALIC LyLxRyRpYAiOMiSANDHI MARKjECTION MARK-1v2kPARATORjIGN ANUSVARAoVAGRAHA",
  "nCANDRABINDUnINVERTED CANDRABINDUnJIHVAMULIYAnNUKTAnSIDDHAMnUPADHMANIYAnVIRAMApSARGAjUTRA MARK",
  "iVOWEL MODIFIER MARKoSIGN AAuIuUtEtIuItOtPRISHTHAMATRA EtUuUtVOCALIC L+cL+bR+cReKdVED ICE",
  "eIAN LETTER ADOqGEqHqIRqRErRAYqSHqWEpBIBpCHURCHpDEADpEARrTqGGqRRpFEEpGAGpHA-HAqUNGpIANqCEqFpJUDGE",
  "pKICKpLOLLpMEASUREqIMEpNUNpOAKqILqNqOZEqRqUTpPEEPpROARpSOqUREpTHEYrIGHqOTpUPpVOWpWOErOLpYEArWpZOO",
  "cEEPcIELDdFT INgOUTdNTO SHRINEdPcOCKED FACE WITH EXPLODING HEADdOTING STARdPPING BAGSjTROLLEY",
  "dRT BACKSLANTED SOUTH ARROWhENT ARROW POINTING DOWNWARDS THEN NORTH EASTgDOWN TACKp WITH OVERBAR",
  "gLEFT TACKgRIGHTWARDS ARROW ABOVE LEFTWARDS ARROWgSLANTED NORTH ARROWgUP TACKn ABOVE SHORT DOWN TACK",
  "oWITH UNDERBARfCAKEfHAND FORMAT CONTINUING OVERLAPrDOWN STEPrLETTER OVERLAPrUP STEPfS",
  "dULDERED OPEN BOXdWERcRIMPdUGcUFFLE PRODUCTcYbIcDDHAM DANDAjOUBLE DANDAiEND OF TEXT MARKiLETTER AqA",
  "qIqLTERNATE UqUpBAqHApCAqHApDAqDArHAqHApEpGAqHApHApIqIpJAqHApKAqHApLApMApNAqGAqNAqYApOpPAqHApRApSA",
  "qHAqSApTAqHArREE-CIRCLE ALTERNATE IqTArHAqWO-CIRCLE ALTERNATE I+lIpUqUpVAqOCALIC LyLxRyRpYA",
  "iREPETITION MARK-1y2y3iSECTION MARK DOUBLE RING+g WITH RAYSvWITH CIRCLES AND FOUR ENCLOSURES+mRAYS",
  "+mTWO ENCLOSURES+aDOUBLE CRESCENTS+aQUADRUPLE CRESCENTS+aRAYS AND DOTTED CRESCENTS+qDOUBLE CRESCENTS",
  "+qTRIPLE CRESCENTS+aSEPTUPLE CRESCENTS+aTRIDENT AND DOTTED CRESCENTS+mU-SHAPED ORNAMENTS",
  "+dPLE CRESCENTSkPARATOR BARsDOTjIGN ANUSVARAnCANDRABINDUnNUKTAnSIDDHAMnVIRAMApSARGAiVOWEL SIGN AAuI",
  "uLTERNATE U+eUuUtEtIuItOtUuUtVOCALIC R+cRdEWAYS BLACK DOWN POINTING INDEXpLEFT POINTING INDEX",
  "pRIGHT POINTING INDEXpUP POINTING INDEXjWHITE DOWN POINTING INDEXpLEFT POINTING INDEX",
  "pRIGHT POINTING INDEXpUP POINTING INDEXcGN OF THE HORNSeWRITING AIR BLOW SMALL ROTATIONSuING OUT",
  "qSUCK SMALL ROTATIONSuING INmBREATH EXHALEtINHALEoUSH BETWEENsMULTIPLEsSINGLEmCHEEKS NEUTRALtPUFFED",
  "tSUCKEDnOLONoMMAmDREAMY EYEBROWS DOWN NEUTRAL+cNEUTRAL DOWN+kUP+cUP NEUTRALnYNAMIC ARROWHEAD LARGE",
  "+eSMALLuEVERY OTHER TIMEuFASTuGRADUALuRELAXEDuSIMULTANEOUS+g ALTERNATINGvLOWuTENSEmEARSnXCITEMENT",
  "nYE BLINK MULTIPLEwSINGLEqWINKpBROWS STRAIGHT DOWN+eNEUTRAL+eUPpGAZE-FLOORPLANE CURVED+fSTRAIGHT",
  "+n ALTERNATING+oDOUBLEuWALLPLANE CIRCLING+fURVED+eSTRAIGHT+m ALTERNATING+nDOUBLEpLASHES DOWN",
  "wFLUTTERINGwUPpS CLOSEDrHALF CLOSEDwOPENrOPENrSQUEEZEDrWIDE OPENvNING MOVEMENT",
  "mFACE DIRECTION POSITION NOSE FORWARD TILTING+pUP OR DOWN+z TILTINGnILL MODIFIER-2+a3+a4+a5+a6oNGER",
  "nLICK LARGE MULTIPLEySINGLEsSEQUENTIALtMALL MULTIPLEySINGLEoOORPLANE SHOULDER HIP MOVE",
  "nOREHEAD CONTACTvNEUTRALvWRINKLEDnULL STOPmGRASP BETWEENsMULTIPLEsSINGLEmHAIRoND-ANGLEw INDEX",
  "+c MIDDLE LITTLE+kRING+dRING LITTLE+o OUT+dTHUMB+i IN+jOUTxLITTLE INDEX+j THUMB INDEX THUMB++b OUT",
  "+eUPxMIDDLE RING LITTLE+p IN+qOUTxRING DOWN MIDDLE THUMB INDEX CROSS+cLITTLErCIRCLEx INDEX+d BENT",
  "+eHINGE+eMIDDLE+k CROSS LITTLE+qED+lLITTLE+lRING+lTHUMB+eRING LITTLEyLITTLE INDEX+fUP",
  "yMIDDLE RING LITTLE+q BENT+fUPyRING LITTLEsLAWv FOUR FINGERS CONJOINED",
  "wINDEX THUMB CURVE THUMB INSIDEwMIDDLE RING LITTLE CONJOINED+y SIDEwNO THUMBwTHUMB FORWARD+cSIDEsUP",
  "u FIVE FINGERS SPREAD+o OPENvINDEX+a RING LITTLE+bTHUMB+g OPENvMIDDLE RING LITTLEvNO THUMBvOPEN",
  "z NO THUMB+aTHUMB FORWARD+gSIDEvTHUMB FORWARD+bSIDEtRLICUEz INDEX RING LITTLE ON",
  "+aMIDDLE RING LITTLE ON+aOPENrFISTv FOUR FINGERS CONJOINED BENTwHEELwINDEX+b BENT+g OVER MIDDLE",
  "+cCUPPED+cHINGED+i LOW+jMIDDLE UP+s THUMB SIDE+cMIDDLE+i BENT+n THUMB STRAIGHT+jCONJOINED+s CUPPED",
  "+z THUMB FORWARD+tHINGED+z THUMB SIDE+tINDEX BENT+tMIDDLE BENT+tTHUMB FORWARD+zSIDE++d BENT",
  "++eCONJOINED+kROSS LITTLE+oED+q THUMB SIDE+jHINGED+p SPREAD THUMB SIDE+jLITTLE+jRAISED KNUCKLES+kING",
  "+n BENT+oCONJOINED+jSTRAIGHT THUMB BENT+jTHUMB+o ANGLED+v OUT+pBENT+pCIRCLED+qONJOINED HINGED+qUPPED",
  "+pHINGED+qOOKED+jUP SPREAD THUMB FORWARD+cRAISED KNUCKLE+dING LITTLE+cTHUMB ANGLED IN MIDDLE UP",
  "+pOUT MIDDLE UP+iCIRCLE+oD MIDDLE UP+jUPPED MIDDLE UP+kRLICUE+lVE THUMB INSIDE+uUNDER",
  "+iFORWARD INDEX BENT+wSTRAIGHT+iHOOK+mED MIDDLE HINGED+wUP+iSIDE+m BOTH BENT+nINDEX BENT+tHINGE",
  "+nTHUMB BENT+tCONJOINED+tDIAGONAL+cUP MIDDLE HINGED+s THUMB CONJOINED+zSIDEwLITTLE BENT+dDOWN",
  "+h OTHERS CIRCLED+iRIPPLE CURVED+pSTRAIGHT+dINDEX+i THUMB+dRAISED KNUCKLE+dTHUMB+eOUCHES THUMB+dUP",
  "wMIDDLE BENT OVER INDEX+dDOWN+dLITTLE+dRAISED KNUCKLE+eING LITTLE+dTHUMB ANGLED INDEX UP",
  "+qOUT INDEX CROSSED++aUP+jCIRCLED INDEX HINGED+xUP+kUPPED INDEX UP+jHOOKED INDEX UP+jLITTLE+dUP",
  "+f THUMB SIDEwRING DOWN+bINDEX+bLITTLE+bMIDDLE+h CONJOINED+iRAISED KNUCKLES+bRAISED KNUCKLE+bTHUMB",
  "+bUPwTHUMB+b BETWEEN INDEX MIDDLE+w STRAIGHT+kMIDDLE RING+kRING LITTLE+cFORWARD+cHEEL",
  "+cOVER FOUR RAISED KNUCKLES+hTWO FINGERS+cSIDE BENT+hCONJOINED+hDIAGONAL+cUNDER FOUR FINGERS",
  "+iINDEX BENT+iLITTLE UP+iTHREE FINGERS+jWO FINGERSsLATv BETWEEN PALM FACINGSwFIVE FINGERS SPREAD",
  "+p BENT+qFOUR BENT+qHINGED+w NO THUMB+xTHUMB SIDE+qTHUMB FORWARDxOUR FINGERS+i BENT+jCONJOINED",
  "+s SPLIT+jHINGEDwHEEL+a FIVE FINGERS SPREAD+u BENT+vFOUR BENT+bTHUMB SIDEwSPLIT CENTRE+i THUMB SIDE",
  "+t BENT+cINDEX THUMB SIDE+cLITTLEwTHUMB BENT+cFORWARD+cSIDErHINGEw FIVE FINGERS SPREAD OPEN",
  "yOUR FINGERS CONJOINEDxINDEX+c HINGED+dMIDDLE LITTLE+kRING+o CONJOINED+dRING LITTLE+dTHUMB+i LARGE",
  "+jOPEN+jSIDE+kMALLxLITTLE+d INDEX+j THUMB+eTHUMBxMIDDLE+d RING LITTLExNO THUMBxOPEN+b NO THUMB",
  "+cTHUMB FORWARD+iSIDExRING+b DOWN INDEX THUMB HOOK MIDDLExSMALLxTHUMB BETWEEN MIDDLE RING+dSIDE",
  "+h TOUCHING INDEXsOOKv CURLICUEwINDEX RING LITTLE IN+oOUT+oUNDERwMIDDLE RING LITTLE CONJOINED+y IN",
  "+zOUT+dTHUMBwRING THUMBrOVALv FIVE FINGERS SPREADwINDEXwLITTLE UPwNO THUMBwRING LITTLEwTHUMB FORWARD",
  "+cSIDEnEADq MOVEMENT CIRCLEz-FLOORPLANE CURVE+lSTRAIGHT+aWALLPLANE CURVE+kSTRAIGHT+kTILTrRIM",
  "mLIMB COMBINATIONrLENGTH-1y2y3y4y5y6y7oP LOWER OVER UPPERqUPPER OVER LOWERpS PRESSED TOGETHER",
  "nOCATION DEPTHvHEAD NECKxIGHTvLIMBS DIGITSvTORSOvWIDTHu-FLOORPLANE SPACEvWALLPLANE SPACE",
  "mMOUTH CLOSED CONTACTzFORWARDzNEUTRALtORNERSsFROWNx OPENyWRINKLEDsKISSw FORWARDxWRINKLEDsOPEN CIRCLE",
  "xFORWARDxOVAL+b WRINKLED+cYAWNxRECTANGLE+g WRINKLED+hYAWNxWRINKLEDsSMILEx OPENyWRINKLEDsTENSE",
  "x FORWARDySUCKEDsWRINKLES DOUBLE+bSINGLEoVEMENT-DIAGONAL AWAY LARGE+oST+jMEDIUM+jSMALL",
  "+eBETWEEN AWAY LARGE+wST+rMEDIUM+rSMALL+mTOWARDS LARGE+zST+uMEDIUM+uSMALL+eTOWARDS LARGE+rST+mMEDIUM",
  "+mSMALLvFLOORPLANE ARM CIRCLE HITTING WALL LARGE DOUBLE++kSINGLE++eMEDIUM DOUBLE++lSINGLE",
  "++eSMALL DOUBLE++kSINGLE+gBEND+hOX LARGE+kMEDIUM+kSMALL+gCHECK+hORNER LARGE+nMEDIUM+nSMALL+hROSS",
  "+hURVE COMBINED+mHITTING CEILING LARGE++cSMALL+uFLOOR LARGE++aSMALL+mLARGE+rST+mMEDIUM+mSMALL",
  "+gDOUBLE ALTERNATING+y WRIST FLEX+nSTRAIGHT+nWRIST FLEX+gFINGER CIRCLES HITTING WALL DOUBLE++iSINGLE",
  "+oONTACT+gHUMP HITTING CEILING LARGE DOUBLE++hTRIPLE++bSMALL DOUBLE++hTRIPLE+tFLOOR LARGE DOUBLE",
  "+zSMALL DOUBLE+zTRIPLE LARGE TRIPLE++gSMALL TRIPLE+lSMALL+gJAW+gLOOP HITTING CEILING LARGE DOUBLE",
  "++hSINGLE++bSMALL DOUBLE++hSINGLE+tFLOOR LARGE DOUBLE++fSINGLE+zSMALL DOUBLE++fSINGLE+lSMALL",
  "+gPEAKS LARGE+mMEDIUM+mSMALL+gSHAKING PARALLEL+hINGLE STRAIGHT LARGE++bST+wMEDIUM+wSMALL+nWRIST FLEX",
  "+gTRIPLE ALTERNATING MOVEMENT+zWRIST FLEX+nSTRAIGHT MOVEMENT+nWRIST FLEX+gWAVE HITTING CEILING LARGE",
  "++bSMALL+tFLOOR LARGE+zSMALL+lLARGE+lSMALL+mNAKE+hRIST CIRCLE HITTING WALL DOUBLE++gSINGLE",
  "+gZIGZAG LARGE+nMEDIUM+nSMALLvHINGE DOWN SEQUENTIAL+bSIDE TO SIDE SCISSORS",
  "+bUP DOWN ALTERNATING LARGE+vSMALL+jLARGE+jSMALL+eSEQUENTIALvWALLPLANE ARM CIRCLE MEDIUM DOUBLE",
  "+xSINGLE+qSMALL DOUBLE+wSINGLE+fBEND LARGE+kMEDIUM+kSMALL+gOX LARGE+jMEDIUM+jSMALL+fCHECK LARGE",
  "+lMEDIUM+lSMALL+gORNER LARGE+mMEDIUM+mROTATION+mSMALL+gROSS+gURVE HALF-CIRCLE LARGE++cST+xMEDIUM",
  "+xSMALL+mITTING CHEST+tFRONT WALL+lQUARTER LARGE+yST+tMEDIUM+tSMALL+lTHEN STRAIGHT",
  "+nREE-QUARTER CIRCLE MEDIUM++gSMALL+kD CROSS MEDIUM+sSMALL+fDOUBLE ALTERNATING+x WRIST FLEX",
  "+mSTRAIGHT+mWRIST FLEX+fFINGER CIRCLES DOUBLE+uSINGLE+nONTACT+fHUMP HITTING CHEST+sFRONT WALL+kLARGE",
  "+kMEDIUM+kSMALL+fJAW+fLOOP HITTING CHEST+sFRONT WALL+kLARGE+kMEDIUM+kSMALL+p DOUBLE+fPEAKS LARGE",
  "+lMEDIUM+lSMALL+fSHAKING+gINGLE STRAIGHT LARGE++aST+vMEDIUM+vSMALL+mWRIST FLEX+fTRIPLE ALTERNATING",
  "+x WRIST FLEX+mSTRAIGHT MOVEMENT+mWRIST FLEX+fWAVE CURVE DOUBLE LARGE+xMEDIUM+xSMALL+qTRIPLE LARGE",
  "+xMEDIUM+xSMALL+kDIAGONAL PATH LARGE+yMEDIUM+ySMALL+kHITTING CHEST+sFRONT WALL",
  "+gRIST CIRCLE FRONT DOUBLE+ySINGLE+fZIGZAG LARGE+mMEDIUM+mSMALLmNECKnOSE CONTACTrNEUTRALrWIGGLES",
  "sRINKLESmPARENTHESISmROTATION MODIFIER-10+f1+f2+f3+f4+f5+f6+e2+e3+e4+e5+e6+e7+e8+e9",
  "u-FLOORPLANE ALTERNATING+r HITTING CEILING++aFLOOR+gDOUBLE+m HITTING CEILING+vFLOOR+gSINGLE",
  "+m HITTING CEILING+vFLOORvWALLPLANE ALTERNATE+nING HITTING CHEST+zFRONT WALL+fDOUBLE+l HITTING CHEST",
  "+uFRONT WALL+fSINGLE+l HITTING CHEST+uFRONT WALLnUB BETWEENqMULTIPLEqSINGLEmSEMICOLON",
  "nHOULDER HIP POSITIONSzSPINEvTILTING FROM WAISTnQUEEZE FLICK ALTERNATINGuLARGE MULTIPLE+aSINGLE",
  "uSEQUENTIALvMALL MULTIPLE+aSINGLEnTRIKE BETWEENtMULTIPLEtSINGLEnURFACE BETWEENuSYMBOLSmTEETH",
  "r BITE LIPSsMOVEMENTsON LIPSz MOVEMENTvTONGUE+b MOVEMENToNSE CHEEKS HIGHzLOWzMIDDLE",
  "nONGUE CENTRE INSIDE MOUTH+aSTICKING OUTtINSIDE MOUTH RELAXEDtLICKING LIPStMOVES AGAINST CHEEK",
  "tSTICKING OUT FARtTIP BETWEEN LIPSxTOUCHING INSIDE MOUTHoRSO-FLOORPLANE TWISTING",
  "sWALLPLANE CURVED BEND+cSTRAIGHT STRETCHoUCH BETWEENsMULTIPLEsSINGLE",
  "nRAVEL-FLOORPLANE ROTATION-FLOORPLANE ALTERNATING+yDOUBLE+ySINGLE+nWALLPLANE ALTERNATING+xDOUBLE",
  "+xSINGLE+eSHAKINGtWALLPLANE ARM SPIRAL DOUBLE+oSINGLE+oTRIPLE+dROTATION-FLOORPLANE ALTERNATING",
  "+xDOUBLE+xSINGLE+mWALLPLANE ALTERNATING+wDOUBLE+wSINGLE+dSHAKINGmUPPER BODY TILTING FROM HIP JOINTS",
  "mWALLPLANE SHOULDER HIP MOVEcLHOUETTE OF JAPANcMILAR ABOVE GREATER-THAN ABOVE EQUALS SIGN",
  "oLESS-THAN ABOVE EQUALS SIGNiMINUS SIMILARiOR GREATER-THANlLESS-THANcNE WAVE",
  "dGLE CHARACTER INTRODUCERhGRAPHIC CHARACTER INTRODUCERhHIGH-REVERSED-9 QUOTATION MARK",
  "hLEFT-POINTING ANGLE QUOTATION MARKiOW-9 QUOTATION MARKhRIGHT-POINTING ANGLE QUOTATION MARK",
  "hSHIFT THREEoWOg-SHIFT-2n3dHALA ARCHAIC DIGIT EIGHTwFIVExOURwNINEwONEwSEVENxIXwTHREExWO",
  "qNUMBER EIGHTYxFIFTYyORTYxNINETYxONE HUNDRED+bTHOUSANDxSEVENTYyIXTYxTENyHIRTYyWENTYiLETTER AAYANNA",
  "qEEYANNArYANNAqIYANNAqLPAPRAANA BAYANNA+aCAYANNA+aDAYANNA+bDAYANNA+aGAYANNA+aJAYANNA+aKAYANNA",
  "+aPAYANNA+aTAYANNA+bTAYANNAqMBA BAYANNAqUYANNAqYANNApDANTAJA LAYANNAxNAYANNAxSAYANNApEEYANNAqYANNA",
  "pFAYANNApHAYANNApIIYANNAqLUUYANNAsYANNAqRUUYANNAsYANNAqYANNApKANTAJA NAASIKYAYApMAHAAPRAANA BAYANNA",
  "+bCAYANNA+bDAYANNA+cDAYANNA+bGAYANNA+bJAYANNA+bKAYANNA+bPAYANNA+bTAYANNA+cTAYANNArYANNA",
  "qUURDHAJA LAYANNAzNAYANNAzSAYANNApOOYANNAqYANNApRAYANNApSANYAKA DAYANNAyDAYANNAxGAYANNAxJAYANNA",
  "pTAALUJA NAASIKYAYAxSANYOOGA NAAKSIKYAYAzYANNApUUYANNAqYANNApVAYANNApYAYANNAjITH DIGIT EIGHTtFIVE",
  "uOURtNINEtONEtSEVENuIXtTHREEuWOtZEROiPUNCTUATION KUNDDALIYAiSIGN AL-LAKUNAoNUSVARAYAnCANDRABINDU",
  "nVISARGAYAiVOWEL SIGN AELA-PILLAtDIGA AEDA-PILLAyGAETTA-PILLA+aYANUKITTAyIS-PILLAyKOMBUVAyPAA-PILLA",
  "tGAETTA-PILLAvYANUKITTAtKETTI AEDA-PILLAzIS-PILLAzPAA-PILLAuOMBU DEKAyVA+a HAA AELA-PILLA",
  "+fDIGA AELA-PILLA+fGAYANUKITTAcX PETALLED BLACK AND WHITE FLORETTEfOINTED BLACK STARmPINWHEEL STAR",
  "mSTAR WITH MIDDLE DOTd-PER-EM SPACEdTEEN POINTED ASTERISKbKATEBOARDcI AND SKI BOOTdERcULL",
  "f AND CROSSBONESdNKbLANTED EQUAL TO OR GREATER-THAN+g WITH DOT INSIDEuLESS-THAN+d WITH DOT INSIDE",
  "iNORTH ARROW WITH HOOKED HEAD+bRIZONTAL TAILdVONIC ASTERISKcEDdEPING ACCOMMODATIONjFACEjSYMBOL",
  "fY FACEdUTH OR SPYcICE OF PIZZAdGHTLY FROWNING FACEjSMILING FACEcOPEeING LARGE ANDoORdT MACHINEeH",
  "bMALL AIRPLANEhMPERSANDhSTERISKgBLUE DIAMONDgCOLONiMMAkERCIAL ATiNTAINS AS MEMBERpWITH OVERBAR",
  "uVERTICAL BAR AT END OF HORIZONTAL STROKEgDOLLAR SIGNgELEMENT OFq WITH OVERBAR",
  "wVERTICAL BAR AT END OF HORIZONTAL STROKEhM DASHhQUALS SIGNhXCLAMATION MARKgFULL STOP",
  "gGREATER-THAN SIGNgHYPHEN-MINUSgIDEOGRAPHIC COMMAgLEFT CURLY BRACKETlPARENTHESIS",
  "lTORTOISE SHELL BRACKETiSS-THAN SIGNgNUMBER SIGNgORANGE DIAMONDgPERCENT SIGNhLUS SIGNgQUESTION MARK",
  "gREVERSE SOLIDUShIGHT CURLY BRACKETmPARENTHESISmTORTOISE SHELL BRACKEThOMAN NUMERAL EIGHTvLEVEN",
  "uFIFTYwVEy HUNDREDvOURuNINEuONEx HUNDREDyTHOUSANDuSEVENvIXuTENvHREEvWELVEwOgSEMICOLONgTILDE",
  "hWO DOTS OVER ONE DOT PUNCTUATIONgVEE WITH UNDERBARfER THANm OR EQUAL TOdSH PRODUCTcILE",
  "eING CAT FACE WITH HEART-SHAPED EYESwOPEN MOUTHiFACE WITH HALOtEART-SHAPED EYEStORNSsOPEN MOUTH",
  "+c AND COLD SWEAT+hSMILING EYES+hTIGHTLY-CLOSED EYESsSMILING EYES+e AND HAND COVERING MOUTH",
  "+jTHREE HEARTStUNGLASSESsTEARdRKING FACEcOKING SYMBOLbNAILdKEcEEZING FACEcOW CAPPED MOUNTAINeBOARDER",
  "eFLAKEeMANh WITHOUT SNOWbOcCCER BALLdKScFT HYPHENfICE CREAMfSHELL FLOPPY DISKeBALL",
  "eWARE-FUNCTION SYMBOLcGDIAN COMBINING CURVE ABOVEyBELOWsDOT ABOVEwBELOWsHOOK ABOVExBELOW",
  "sLONG HOOK BELOWsRESH BELOWsSTROKE BELOWsTWO DOTS ABOVE+bBELOWiINDEPENDENT SHINiLETTER ALEPHqYIN",
  "pBETHpFETHpGIMELpHErTHpKAPHpLAMEDHqESHpMEMpNUNpPEpRESH-AYINpSADHErMEKHqHINpTAWpWAWpYODHpZAYIN",
  "iNUMBER ONEs HUNDREDpTENqWENTYiPUNCTUATION CIRCLE WITH DOTuHALF CIRCLE WITH DOT",
  "uTWO CIRCLES WITH DOTSyVERTICAL BARS+l WITH DOTScHcLID QUILT SQUARE ORNAMENT+b IN BLACK SQUAREfUS",
  "h WITH OVERBARcM SIGNcON WITH RIGHTWARDS ARROW ABOVEcRA SOMPENG DIGIT EIGHTtFIVEuOURtNINEtONEtSEVEN",
  "uIXtTHREEuWOtZEROnLETTER AHuBAHuCAHuDAHuEEHvHuGAHuHAHuIHuJAHuKAHuLAHuMAEwHuNAHvGAHvYAHuOHuPAHuRAH",
  "uSAHuTAHuUHuVAHuYAHcScUND RECORDING COPYRIGHTdTH EAST ARROWq AND SOUTH WEST ARROW",
  "rCROSSING NORTH EAST ARROWrTO CORNERrWITH HOOKlBLACK ARROWlDOUBLE ARROWlPOINTING BUDuLEAFuVINE LEAF",
  "lSANS-SERIF ARROWlTRIANGLE-HEADED ARROW+g TO BARlWHITE ARROWgWEST ARROWq AND NORTH WEST ARROW",
  "rWITH HOOKlBLACK ARROWlDOUBLE ARROWlPOINTING BUDuLEAFuVINE LEAFlSANS-SERIF ARROW",
  "lTRIANGLE-HEADED ARROW+g TO BARlWHITE ARROWcYOMBO CLUSTER-INITIAL LETTER LA+fRA+fSA+gHA",
  "iFINAL CONSONANT SIGN -A+dB+dD+dG+dK+dL+dM+dN+eG+dR+dS+eHiGEMINATION MARK",
  "iHEAD MARK WITH MOON AND SUN+j AND FLAME+oTRIPLE FLAMEiLETTER -ApApBAqHApCAqHApDAqDArHAqHAqZApGAqHA",
  "pHApJAqHApKAqHAqSSApLApMApNAqGAqNAqYApPAqHApRApSAqHAqSApTAqHAqSArHAqTArHApVApYApZAqHA",
  "iMARK DOUBLE SHADnPLUTAnSHADnTSHEGiSIGN ANUSVARAnJIHVAMULIYAnUPADHMANIYAnVISARGAjUBJOINER",
  "iTERMINAL MARK-1w2iVOWEL LENGTH MARKoSIGN AIuUtEtItOuEtUuEtVOCALIC L+bRbPcAdCEdGHETTIdRKLEhS",
  "gING HEARTcEAK-NO-EVIL MONKEYfERh WITH CANCELLATION STROKEnONE SOUND WAVEnTHREE SOUND WAVES",
  "fING HEAD IN SILHOUETTEdECH BALLOONeDBOATdSMILO SIGNcHERICAL ANGLEp OPENING LEFTyUPcIDERg WEB",
  "dRAL CALENDAR PADhNOTE PADhSHELLcLASHING SWEAT SYMBOLcONGEdOL OF THREADeNdRTS MEDALdUTING WHALE",
  "bQUARE A OVER MiARUiMiNPEAiPAATOiRUHUAiUhBAARERUjRiEETAiIRUiORUTOiQiUSSYERUhC OVER KGiALjPiCiDiM",
  "j CUBEDkSQUAREDiOjRPORATIONiUPhDAjASUiBiESIiJiLiMj CUBEDkSQUAREDiORUhEEKAAiRA NAME HEISEIqMEIZI",
  "qREIWAqSYOUWAqTAISYOUjGiSUKUUDOiVhFMiOOTjUR CORNERShGALjNMAjRONiBiHZiIGAjNIIjRUDAAiPAiURAMUnTONiYhHA",
  "jITUiEKUTAARUjRUTUiGiIRAGANA HOKAiONjONkRUiPjAiUARADDOjIITOjRANiZhIMAGE OFp OR EQUAL TOtNOT EQUAL TO",
  "iNjINGUjTIiUhK OHMiAjIRIjRATTOkORIIiBiCALiEESUiGiHZiIROlGURAMUlMEETORUlWATTOiKiLiMj CAPITALlUBED",
  "kSQUAREDiOOPOjRUNAiPAiTiUROONEkUZEIROiViWiYURIIhLEFT OPEN BOX OPERATORiMiNiOGjZENGEiXhM CUBEDjOHM",
  "kVER Sp SQUAREDjSQUAREDiAjHHAjIKUROkRUjNSYONjRUKUiBj SMALLiEETORUjGAlTONiGiHZiIKURONjLjRIlBAARUiLiM",
  "j CUBEDkSQUAREDiOLiPAiSiU AkFkGkLkMkSkVkWiVj MEGAiWj MEGAhNAjNOiFiMiOTTOiSiViWhONSUiOMUiRIGINAL OF",
  "s OR EQUAL TOwNOT EQUAL TOiVhPAj AMPSjASENTOkTUiCiEEZIjNIHIkSUjSOiFiHiIASUTORUjKOkURUiMiOINTOjNDO",
  "jSITION INDICATORiPMiRiSiViWhRADk OVER Sr SQUAREDiEMUjNTOGENiIGHT OPEN BOX OPERATORjRAjTTORUiOOT",
  "iUPIIjUBURUhSAIKURUjNTIIMUiENTIlOiIRINGUiRiVhTARGETiHZiONhUONhV OVER MhWATTOiBiITH BOTTOM HALF BLACK",
  "mCONTOURED OUTLINEmDIAGONAL CROSSHATCH FILLmHORIZONTAL FILLmLEFT HALF BLACK",
  "nOWER LEFT DIAGONAL HALF BLACKsRIGHT DIAGONAL HALF BLACKmORTHOGONAL CROSSHATCH FILLmRIGHT HALF BLACK",
  "mTOP HALF BLACKmUPPER LEFT DIAGONAL HALF BLACKxTO LOWER RIGHT FILLsRIGHT DIAGONAL HALF BLACK",
  "yTO LOWER LEFT FILLmVERTICAL FILLhYAADOkRUiUANgD ASTERISKiCJK UNIFIED IDEOGRAPH-4E00+h9+g2D+g8C+gA4",
  "+e518D+f21D+g4D+g72+f3CC+gF3+f408+g39+f5B6+f8F0+f91A+g29+fB57+fDE6+fF8C+e624B+g53+g95+f307+g55+f599",
  "+gB0+f620+f708+h9+fE80+fF14+e7121+f51F+g33+f981+fA7A+fD42+e89E3+fCA9+fD70+e904A+f14DjLjOOL",
  "iDOT OPERATORiEIGHT KiFALLING DIAGONAL SLASHjIVE POINT ONEjOUR DOT PUNCTUATIONnKjREEiHCjDRjI-RESjV",
  "iIDiKATAKANA DErKOKOrSAjEYiLATIN CAPITAL LETTER A+dB+dC+dD+dE+dF+dG+dH+dI+dJ+dK+dL+dM+dN+dO+dP+dQ+dR",
  "+dS+dT+dU+dV+dW+dX+dY+dZoSMALL LETTER DjOGICAL ANDqORkSSLESSiMINUSjViNEWjGiOKjNE HUNDRED TWENTY P",
  "iPLUSjPViRISING DIAGONAL SLASHiSALTIREjDjECOND SCREENkVEN POINT ONEjHVjIXTY PjMALL CIRCLEjOSjQUAREjS",
  "iTHREE DjIMESjWENTY-TWO POINT TWOkO KiUHDjP WITH EXCLAMATION MARKiVODjSiWCeT BLACK RIGHTWARDS ARROW",
  "dIDbS2c3cAbTcADIUMdFF OF AESCULAPIUSjHERMESdMPED ENVELOPEdNDING PERSONdR AND CRESCENTfEQUALS",
  "fOF DAVIDgPERATORfWITH LEFT HALF BLACKkRIGHT HALF BLACKeT OF GUARDED AREAjHEADINGjPROTECTED AREA",
  "jSELECTED AREAkTRINGjTEXTdTIONeUE OF LIBERTYcEAM LOCOMOTIVEfING BOWLdNOGRAPHIC FULL STOPdTHOSCOPE",
  "cICK FIGUREm LEANING LEFTvRIGHTnWITH ARMS RAISEDsDRESScOCK CHARTdPWATCHcRAIGHT RULERiNESSeWBERRY",
  "dESS OUTLINED WHITE STARdICTLY EQUIVALENT TOeNG TERMINATORcScUDIO MICROPHONEdFFED FLATBREADdPAcXbUB",
  "dSCRIPT EIGHTlQUALS SIGNkFIVElOURkLEFT PARENTHESISkMINUSkNINEkONEkPLUS SIGNkRIGHT PARENTHESISkSEVEN",
  "lIXkTHREElWOkZEROeET ABOVE RIGHTWARDS ARROWnSUBSETpPERSEThOFj ABOVE ALMOST EQUAL TOqEQUALS SIGN",
  "qNOT EQUAL TOqTILDE OPERATORkOR EQUAL TOv WITH DOT ABOVEkWITH NOT EQUAL TOhWITH DOT",
  "mMULTIPLICATION SIGN BELOWmPLUS SIGN BELOWeTITUTEcCCEEDSi ABOVE ALMOST EQUAL TOpEQUALS SIGN",
  "pNOT ALMOST EQUAL TOtEQUAL TOpSINGLE-LINE EQUALS SIGN+bNOT EQUAL TOjBUT NOT EQUIVALENT TO",
  "jOR EQUAL TOpIVALENT TOjUNDER RELATIONcMMATION BOTTOMkTOPkWITH INTEGRALcNd BEHIND CLOUDeWITH FACE",
  "dDANESE AVAGRAHAkCONSONANT SIGN PAMINGKAL+bNYAKRA+dIKU+bSANGAN MA+iWAkDIGIT EIGHTqFIVErOURqNINEqONE",
  "qSEVENrIXqTHREErWOqZEROkLETTER AsErBAsHArCArDArEsUrFAsINAL KxMrGArHArIrJArKAsHArLAsEUrMArNAsGAsYArO",
  "rPArQArRAsEUrSAsYArTArUrVArWArXArYArZAkPUNCTUATION BINDU BA SATANGA+cCAKRA+cDA SATANGA+cKA SATANGA",
  "+cLEU SATANGA+cPANGLONG+dURNAMA+cSURYAkSIGN PAMAAEHrNGLAYARtWISADsYECEKpVIRAMAkVOWEL SIGN PAMEPET",
  "xNAELAENGyEULEUNGyGHULUyOLONGyYUKUdFLOWERdRISEh OVER MOUNTAINSdSET OVER BUILDINGScPERHERO",
  "fSCRIPT EIGHTnQUALS SIGNmFIVEnOURmLATIN SMALL LETTER I+fNnEFT PARENTHESISmMINUSmNINEmONEmPLUS SIGN",
  "mRIGHT PARENTHESISmSEVENnIXmTHREEnWOmZEROgET ABOVE LEFTWARDS ARROWpSUBSETrPERSET",
  "jBESIDE AND JOINED BY DASH WITH SUBSETqSUBSETjOFl ABOVE ALMOST EQUAL TOsEQUALS SIGNsNOT EQUAL TO",
  "sTILDE OPERATORmOR EQUAL TOx WITH DOT ABOVEmWITH NOT EQUAL TOjPRECEDING SOLIDUSjWITH DOT",
  "oMULTIPLICATION SIGN BELOWoPLUS SIGN BELOWfVILLAINcRFACE INTEGRALeERcSHIdPENSION RAILWAYbWAN",
  "dSH AMPERSAND ORNAMENTcIMMERcUNG DASHbYLOTI NAGRI LETTER AuBHOvOuCHOvOuDDHOwOvHOvOuEuGHOvOuHOuIuJHO",
  "vOuKHOvOuLOuMOuNOuOuPHOvOuROvROuSOuTHOvOvTHOwOuUnPOETRY MARK-1z2z3z4nSIGN ALTERNATE HASANTAtNUSVARA",
  "sDVISVARAsHASANTAnVOWEL SIGN AyEyIyOOyUcMBOL FOR ACKNOWLEDGElBACKSPACEmELLlCANCELnRRIAGE RETURN",
  "lDATA LINK ESCAPEmELETEr FORM TWOnVICE CONTROL FOUR+aONE+aTHREE+bWOlEND OF MEDIUMsTEXTtRANSMISSION",
  "+e BLOCKnQUIRYmSCAPElFILE SEPARATORmORM FEEDlGROUP SEPARATORlHORIZONTAL TABULATIONlLINE FEED",
  "lMARKS CHAPTERlNEGATIVE ACKNOWLEDGEnWLINEmULLlRECORD SEPARATORlSAMARITAN SOURCEmHIFT INrOUTmPACE",
  "mTART OF HEADINGuTEXTmUBSTITUTEv FORM TWOmYNCHRONOUS IDLElTYPE A ELECTRONICSlUNIT SEPARATOR",
  "lVERTICAL TABULATIONdMETRYcNdAGOGUEdCHRONOUS IDLEcRIAC ABBREVIATION MARKhBARREKHhCOLON SKEWED LEFT",
  "uRIGHTjNTRACTIONhDOTTED ZLAMA ANGULARuHORIZONTALhEND OF PARAGRAPHiSASA ABOVEnBELOWhFEMININE DOT",
  "hHARKLEAN ASTERISCUSqMETOBELUSqOBELUSiBASA ABOVEnBELOWm-ESASA DOTTEDiORIZONTAL COLONhLETTER ALAPH",
  "oBETHoDALATHpOTLESS DALATH RISHoEoFINAL SEMKATHoGAMALt GARSHUNIoHEqTHoKAPHoLAMADHoMALAYALAM BHAyJA",
  "yLLA+aLAyNGAzNA+aNAzYAyRAySSAyTTApIMoNUNoPEqRSIAN BHETHwDHALATHwGHAMALoQAPHoREVERSED PEpISHoSADHE",
  "pEMKATHpHINpOGDIAN FEwKHAPHwZHAINpUPERSCRIPT ALAPHoTAWpETHs GARSHUNIoWAWoYUDHs HEoZAINhMUSIC",
  "hOBLIQUE LINE ABOVEuBELOWhPTHAHA ABOVEoBELOWoDOTTEDhQUSHSHAYAhRBASA ABOVEnBELOWiUKKAKHAiWAHA",
  "hSUBLINEAR COLONw SKEWED LEFT+eRIGHTrFULL STOPjPRALINEAR COLONy SKEWED LEFTtFULL STOP",
  "hTHREE DOTS ABOVEsBELOWiWO VERTICAL DOTS ABOVEzBELOWhZQAPHA ABOVEoBELOWoDOTTEDeNGE"]

def namesT : List String := [
  "aT-REXcSHIRTbABdLE TENNIS PADDLE AND BALLcCOcG AMPERSANDfPOSTROPHEfSTERISKeCIRCUMFLEX ACCENTfOLON",
  "gMMAiERCIAL ATeDIGIT EIGHTkFIVElOURkNINEkONEkSEVENlIXkTHREElWOkZEROfOLLAR SIGNeEQUALS SIGN",
  "fXCLAMATION MARKeFULL STOPeGRAVE ACCENTgEATER-THAN SIGNeHYPHEN-MINUSeLATIN CAPITAL LETTER AzBzCzDzE",
  "zFzGzHzIzJzKzLzMzNzOzPzQzRzSzTzUzVzWzXzYzZkSMALL LETTER AxBxCxDxExFxGxHxIxJxKxLxMxNxOxPxQxRxSxTxUxV",
  "xWxXxYxZfEFT CURLY BRACKETjPARENTHESISjSQUARE BRACKETgSS-THAN SIGNfOW LINEeNUMBER SIGNePERCENT SIGN",
  "fLUS SIGNeQUESTION MARKgOTATION MARKeREVERSE SOLIDUSfIGHT CURLY BRACKETkPARENTHESISkSQUARE BRACKET",
  "eSEMICOLONfOLIDUSfPACEeTILDEeVERTICAL LINEdALOG LETTER AqRCHAIC RApBApDApGApHApIpKApLApMApNAqGApPA",
  "pRApSApTApUpWApYAiSIGN PAMUDPODnVIRAMAiVOWEL SIGN ItUdBANWA LETTER AqBAqDAqGAqIqKAqLAqMAqNArGAqPAqSA",
  "qTAqUqWAqYAjVOWEL SIGN IuUcI LE LETTER ApIpUEoEpEpHoFAoHAoIoKApHAoLAoMAoNApGAoOpOoPApHAoQAoSAoTApHA",
  "pONE-2t3t4t5t6pSAqHAoUpEoVAoXAoYAeTHAM COMBINING CRYPTOGRAMMIC DOTlNSONANT SIGN BAyFINAL NGA",
  "yHIGH RATHA OR LOW PAyLA TANG LAIzOW PAyMAzEDIAL LA+fRAySAjHORA DIGIT EIGHTuFIVEvOURuNINEuONEuSEVEN",
  "vIXuTHREEvWOuZEROjLETTER AqBAqDAqEEqGREAT SAqHIGH CAwHAvFAvHAvKAwHAwXAvPAwHAvRATHAvSAwHAwSAvTAwHAvYA",
  "qIrIqLAsErLArOW CAvHAuFAuHAuKAvHAvXAuPAvHAuRATHAuSAuTAvHAuYArUEqMAqNArGArYAqOOqRAsNAsTArUEqUrUqWA",
  "jSIGN CAANGoDOKMAIoHANGpOYoKAANsKUUpEOWpHUEN TONE-3z4z5t-LUE KARANoMAI KANGw LAIsSAMsYAMOKoRA HAAM",
  "pEVERSED ROTATED RANAoSAKOTqTKAANvKUUqWANoTONE-1t2oWIANGtWAAKjTHAM DIGIT EIGHTuFIVEvOURuNINEuONE",
  "uSEVENvIXuTHREEvWOuZEROjVOWEL SIGN AvAvEvIuEuIvIuMAI SATuOvA ABOVExBELOWvOvYuTALL AAvHAM AIuUvEvUwE",
  "eVIET LETTER HIGH BOvCHOwOvDOvFOvGOvHOvKHHOxOwOvLOvMOvNGOwOwYOvOvPHOwOvROvSOvTHOwOvVOvYOqLOW BOuCHO",
  "vOuDOuFOuGOuHOuKHHOwOvOuLOuMOuNGOvOvYOuOuPHOvOuROuSOuTHOvOuVOuYOjMAI KANGoHITjSYMBOL HO HOIqKOI KOI",
  "sNqNUENGqSAMjTONE MAI EKsNUENGsSONGsTHOjVOWEL AAqMqNqUEqYpEpIqApOpUqAqErAcKEOUT BOX",
  "dRI ABBREVIATION SIGNgDIGIT EIGHTmFIVEnOURmNINEmONEmSEVENnIXmTHREEnWOmZEROgLETTER AoAoIoRCHAIC KHAoU",
  "nBAoHAnCAoHAnDAoDApHAoHAnEnGAoHAnHAnIoInJAoHAnKAoHAnLAnMAnNAoGAoNAoYAnOnPAoHAnRAoRAnSAoHAnTAoHAoTA",
  "pHAnUoUnVAnYAgSIGN ANUSVARAlNUKTAlVIRAMAnSARGAgVOWEL SIGN AAsIsUrErIsIrOrUsUcLLY MARK FIVElONEcMALE",
  "dIL AND ODD SIGNhS ABOVE SIGNhU LENGTH MARKgCREDIT SIGNhURRENT SIGNgDAY SIGNhEBIT SIGNhIGIT EIGHT",
  "mFIVEnOURmNINEmONEmSEVENnIXmTHREEnWOmZEROhRY CULTIVATION SIGNgFRACTION DOWNSCALING FACTOR KIIZH",
  "pONE EIGHTHyIETHtFIFTHuORTIETHtHALF-1y2tONE-HUNDRED-AND-SIXTIETHtQUARTERtSIXTEENTH-1+d2xY-FOURTH",
  "tTENTHuHIRTY-SECONDvREE-HUNDRED-AND-TWENTIETHuWENTIETHpTHREE EIGHTIETHSvQUARTERSvSIXTEENTHS",
  "zY-FOURTHSvTWENTIETHSgIN POSSESSION SIGNgLAND SIGNhETTER AoAoIoUnCAnEoEnHAnIoInJAnKAnLAoLApLAnMAnNA",
  "oGAoNApNAoYAnOoOnPAnRAoRAnSAoHAoSAnTAoTAnUoUnVAnYAgMONTH SIGNgNUMBER ONE HUNDREDrTHOUSANDnSIGNnTEN",
  "gOMgPUNCTUATION END OF TEXTgRUPEE SIGNgSALT PAN SIGNhIGN AAZHAAKKUmNUSVARAlCEVITUlKAACUmURUNInZHI",
  "lMUKKURUNInTHALIYAnUVUZHAKKUlNELlPAARAMnNAMnTHAKKUmONlUZHAKKUlVAKAIYARAAnRAAKANmELImIRAMAnSARGA",
  "hPENT SIGNhTARTING FROM SIGNgTOTAL SIGNhRADITIONAL CREDIT SIGNsNUMBER SIGNgVOWEL SIGN AAsIsUrEsErIsI",
  "rOsOrUsUgWET CULTIVATION SIGNgYEAR SIGNcNABATA TREEdGERINEeSA DIGIT EIGHTnFIVEoOURnNINEnONEnSEVENoIX",
  "nTHREEoWOnZEROhLETTER ACpQpWCqQqXqZpXpZoBAoCApHAoDApHAoECpQpXpZoFApINAL NGoGApHAoHApTAqTAoICpQpXpZ",
  "oKApHAoLApONG UEXoMApCpQpXpZoNApGApHApYAoOCpQpXpZoPApHAoRAoSApHAqORT AWXuUEZoTApHApSAoUCpECqQqXqZpIC",
  "qQqUCrQrXrZqXqZpQpXpZoVCpQpXpZoWAoXAoYAoZAeUT COMPONENT-001t2t3t4t5t6t7t8t9s10t1t2t3t4t5t6t7t8t9s20",
  "t1t2t3t4t5t6t7t8t9s30t1t2t3t4t5t6t7t8t9s40t1t2t3t4t5t6t7t8t9s50t1t2t3t4t5t6t7t8t9s60t1t2t3t4t5t6t7t8",
  "t9s70t1t2t3t4t5t6t7t8t9s80t1t2t3t4t5t6t7t8t9s90t1t2t3t4t5t6t7t8t9r100t1t2t3t4t5t6t7t8t9s10t1t2t3t4t5",
  "t6t7t8t9s20t1t2t3t4t5t6t7t8t9s30t1t2t3t4t5t6t7t8t9s40t1t2t3t4t5t6t7t8t9s50t1t2t3t4t5t6t7t8t9s60t1t2",
  "t3t4t5t6t7t8t9s70t1t2t3t4t5t6t7t8t9s80t1t2t3t4t5t6t7t8t9s90t1t2t3t4t5t6t7t8t9r200t1t2t3t4t5t6t7t8t9",
  "s10t1t2t3t4t5t6t7t8t9s20t1t2t3t4t5t6t7t8t9s30t1t2t3t4t5t6t7t8t9s40t1t2t3t4t5t6t7t8t9s50t1t2t3t4t5t6",
  "t7t8t9s60t1t2t3t4t5t6t7t8t9s70t1t2t3t4t5t6t7t8t9s80t1t2t3t4t5t6t7t8t9s90t1t2t3t4t5t6t7t8t9r300t1t2t3",
  "t4t5t6t7t8t9s10t1t2t3t4t5t6t7t8t9s20t1t2t3t4t5t6t7t8t9s30t1t2t3t4t5t6t7t8t9s40t1t2t3t4t5t6t7t8t9s50",
  "t1t2t3t4t5t6t7t8t9s60t1t2t3t4t5t6t7t8t9s70t1t2t3t4t5t6t7t8t9s80t1t2t3t4t5t6t7t8t9s90t1t2t3t4t5t6t7t8",
  "t9r400t1t2t3t4t5t6t7t8t9s10t1t2t3t4t5t6t7t8t9s20t1t2t3t4t5t6t7t8t9s30t1t2t3t4t5t6t7t8t9s40t1t2t3t4t5",
  "t6t7t8t9s50t1t2t3t4t5t6t7t8t9s60t1t2t3t4t5t6t7t8t9s70t1t2t3t4t5t6t7t8t9s80t1t2t3t4t5t6t7t8t9s90t1t2",
  "t3t4t5t6t7t8t9r500t1t2t3t4t5t6t7t8t9s10t1t2t3t4t5t6t7t8t9s20t1t2t3t4t5t6t7t8t9s30t1t2t3t4t5t6t7t8t9",
  "s40t1t2t3t4t5t6t7t8t9s50t1t2t3t4t5t6t7t8t9s60t1t2t3t4t5t6t7t8t9s70t1t2t3t4t5t6t7t8t9s80t1t2t3t4t5t6",
  "t7t8t9s90t1t2t3t4t5t6t7t8t9r600t1t2t3t4t5t6t7t8t9s10t1t2t3t4t5t6t7t8t9s20t1t2t3t4t5t6t7t8t9s30t1t2t3",
  "t4t5t6t7t8t9s40t1t2t3t4t5t6t7t8t9s50t1t2t3t4t5t6t7t8t9s60t1t2t3t4t5t6t7t8t9s70t1t2t3t4t5t6t7t8t9s80",
  "t1t2t3t4t5t6t7t8t9s90t1t2t3t4t5t6t7t8t9r700t1t2t3t4t5t6t7t8t9s10t1t2t3t4t5t6t7t8t9s20t1t2t3t4t5t6t7",
  "t8t9s30t1t2t3t4t5t6t7t8t9s40t1t2t3t4t5t6t7t8t9s50t1t2t3t4t5t6t7t8t9s60t1t2t3t4t5t6t7t8",
  "hITERATION MARKcPE CARTRIDGEfDRIVEcURUScXIbEACUP WITHOUT HANDLEdPOTdR-OFF CALENDAR",
  "eDROP-BARBED RIGHTWARDS ARROWjSPOKED ASTERISKcDDY BEARcLEPHONE LOCATION SIGNkON TOP OF MODEM",
  "kRECEIVERs WITH PAGEnORDERkSIGNeSCOPEeVISIONdUGU AI LENGTH MARKhDIGIT EIGHTnFIVEoOURnNINEnONEnSEVEN",
  "oIXnTHREEoWOnZEROhFRACTION DIGIT ONE FOR EVEN POWERS OF FOUR+eODD POWERS OF FOUR",
  "wTHREE FOR EVEN POWERS OF FOUR+gODD POWERS OF FOURxWO FOR EVEN POWERS OF FOUR+eODD POWERS OF FOUR",
  "wZERO FOR ODD POWERS OF FOURhLENGTH MARKjTTER ApApIpUoBApHAoCApHAoDApDAqHApHApZAoEpEoGApHAoHAoIpIoJA",
  "pHAoKApHAoLApLAqLAoMAoNAqKAARA POLLUpGApNApYAoOpOoPApHAoRApRAqRAoSApHApSAoTApHApSApTAqHAoUpUoVA",
  "pOCALIC LxLwRxRoYAhSIGN ANUSVARAnVAGRAHAmCANDRABINDUnOMBINING ANUSVARA ABOVEwCANDRABINDU ABOVEmNUKTA",
  "mSIDDHAMmTUUMUmVIRAMAoSARGAhVOWEL SIGN AAtItUsEtEsItIsOtOsUtUsVOCALIC L+bL+aR+bRcNGE SIGN",
  "dNIS RACQUET AND BALLdTcST TUBEcTRAGRAM FOR ACCUMULATIONpDVANCEpGGRAVATIONpSCENToBARRIER",
  "pOLD RESOLUTIONpRANCHING OUToCENTREpHANGEpLOSED MOUTHtNESSsUREpOMPLETIONtIANCEqNSTANCYrTACTsENTION",
  "sRARIETYoDARKENINGpECISIVENESSqFECTIVENESS OR DISTORTIONqPARTUREpIFFICULTIESqMINISHMENTrMING",
  "qVERGENCEpOUBTpUTIESoEASEpMBELLISHMENTpNCOUNTERSqDEAVOURqLARGEMENTpTERNITYpXHAUSTIONoFAILUREpLIGHT",
  "pOLLOWINGqSTERINGpULL CIRCLEsNESSoGATHERINGx INpOING TO MEETpREATNESSpUARDEDNESSoHARDNESS",
  "pOLDING BACKoINCREASEqNERoJOYoKEEPING SMALLpINSHIPoLABOURINGqW OR MODELpEGIONoMASSINGpEASUREpIRED",
  "oON THE VERGEpPPOSITIONoPACKINGqTTERNpENETRATIONpURITYoREACHqLEASEqSIDENCEsSTANCErPONSEpITUAL",
  "oSEVERANCEpINKINGpTOPPAGErVEqRENGTHoUNITYoVASTNESS OR WASTINGoWAITINGqTCHoYOUTHFULNESS",
  "bHAANA AABAAFILIiBAFILIhEBEFILIiEBEEFILIiYBEYFILIhIBIFILIhLETTER AINUpLIFUoBAAoCHAVIYANIoDAADHU",
  "qVIYANIpHAALUoFAAFUoGAAFUpHAINUpNAVIYANIoHAApHAAoJAVIYANIoKAAFUpHAAoLAAMUpHAVIYANIoMEEMUoNAApOONU",
  "oPAVIYANIoQAAFUoRAAoSAADHUpEENUpHAVIYANIqEENUoTAVIYANIpHAAsLUpOpTAAoVAAVUoWAAVUoYAAoZAAqVIYANIpO",
  "hOABOAFILIiBOFILIiOBOOFILIhSUKUNhUBUFILIdI CHARACTER ANGKHANKHUpBO BAIMAIpCHO CHANxGvINGvOEpDO CHADA",
  "sDEKpFO FAuNrNGMANpHO HIPsNOKHUKpKHO KHAIvONvUATvWAItRAKHANGsMUTqO KAIpLAKKHANGYAOqO CHULAsLINGqU",
  "pMAI CHATTAWAtEKtHAN-AKATtTHOuRIsTAIKHUsYAMOKqO MApNGO NGUqIKHAHITqO NENtUpO ANGpPAIYANNOIqHINTHU",
  "rO PHANvUNGtSAMPHAOqO PLApRO RUAqUpSARA AvAvEvI MAIMALAI+bUANvMuEuIvIuOuUvEwEvUqO RUSIsSALAtOtUA",
  "pTHANTHAKHATrO NANGMONTHOtPHUTHAOtTHAHANwNvONGvUNGqO PATAKsTAOpWO WAENpYAMAKKANqO YAKtING",
  "gURRENCY SYMBOL BAHTfDIGIT EIGHTlFIVEmOURlNINElONElSEVENmIXlTHREEmWOlZEROcERE DOES NOT EXISTgEXISTS",
  "fFOREeMODYNAMICgMETERcIN GREEK CROSSfSALTIREgPACEeKING FACEdRD PLACE MEDALcONG SANDALdUGHT BALLOON",
  "cREE BUTTON MOUSEgCONSECUTIVE EQUALS SIGNSgDIMENSIONAL ANGLEhOT PUNCTUATIONgLEFTWARDS ARROWS",
  "hINES CONVERGING LEFTxRIGHTgNETWORKED COMPUTERSgPOINTED BLACK STARgRAYS ABOVElBELOWlLEFTlRIGHT",
  "hIGHTWARDS ARROWSgSPEECH BUBBLESf-D BOTTOM-LIGHTED RIGHTWARDS ARROWHEAD",
  "iLEFT-LIGHTED DOWNWARDS EQUILATERAL ARROWHEADiRIGHT-LIGHTED UPWARDS EQUILATERAL ARROWHEAD",
  "iTOP-LIGHTED LEFTWARDS EQUILATERAL ARROWHEADuRIGHTWARDS ARROWHEAD+fEQUILATERAL ARROWHEADgEM DASH",
  "gPER-EM SPACEcUMBS DOWN SIGNhUP SIGNdNDER CLOUD AND RAINhSTORMbIBETAN ASTROLOGICAL SIGN -KHYUD PA",
  "+aSDONG TSHUGS+bGRA GCAN -CHAR RTAGSiCANTILLATION SIGN CANG TE-U+aHEAVY BEAT+aLIGHT BEAT+aSBUB -CHAL",
  "iDIGIT EIGHToFIVEpOURoHALF EIGHTtFIVEuOURtNINEtONEtSEVENuIXtTHREEuWOtZEROoNINEoONEoSEVENpIXoTHREEpWO",
  "oZEROiKU RU KHAr BZHI MIG CANiLETTER -ApApBAqHApCAqHApDAqDArHAqHAqZArHApFIXED-FORM RApGAqHApHApJApKA",
  "qHAqKAqSSApLApMApNAqGAqNAqYApPAqHApRAqRApSAqHAqSApTAqHAqSArHAqTArHApWApYApZAqHA",
  "jOGOTYPE SIGN CHAD RTAGSwLHAG RTAGSiMARK ANG KHANG GYASzONnBKA- SHOG GI MGO RGYANxYIG MGOoSDUS RTAGS",
  "pKA- SHOG GI MGO RGYANqUR YIG MGOnCARET -DZUD RTAGS BZHI MIG CAN+fME LONG CANtYIG MGO PHUR SHAD MA",
  "oHE MGOoLOSING BRDA RNYING YIG MGO SGAB MAvYIG MGO SGAB MAnDELIMITER TSHEG BSTARnGTER TSHEG",
  "sYIG MGO -UM GTER TSHEG MA+eRNAM BCAD MA+aTRUNCATED AoUG RTAGS GYASzONnHALANTA",
  "nINITIAL BRDA RNYING YIG MGO MDUN MAvYIG MGO MDUN MApTERSYLLABIC TSHEGnLEADING MCHAN RTAGS",
  "nMNYAM YIG GI MGO RGYANnNGAS BZUNG NYI ZLAySGOR RTAGSoYIS SHADsTSHEGx SHADnPALUTAnRGYA GRAM SHAD",
  "oIN CHEN SPUNGS SHADnSBRUL SHADoHADnTRAILING MCHAN RTAGSoSA -PHRUpHEG SHADnYIG MGO TSHEG SHAD MA",
  "iSIGN GRU CAN RGYINGSrMED RGYINGSnINVERTED MCHU CANnLCE TSA CANpI RTAGSnMAR TSHESoCHU CAN",
  "nNYI ZLA NAA DAnRDEL DKAR GCIGyNYISySUMxRDEL NAGsNAG GCIGxNYISxSUMwRDEL DKARoJES SU NGA ROoNAM BCAD",
  "nSNA LDANnYANG RTAGSpR TSHESjUBJOINED LETTER -AzAzBA+aHAzCA+aHAzDA+aDA+bHA+aHA+aZA+bHAzFIXED-FORM RA",
  "+kWA+kYAzGA+aHAzHAzJAzKA+aHA+aSSAzLAzMAzNA+aGA+aNA+aYAzPA+aHAzRAzSA+aHA+aSAzTA+aHA+aSA+bHA+aTA+bHA",
  "zWAzYAzZA+aHAsSIGN INVERTED MCHU CANxLCE TSA CANxMCHU CANjYLLABLE OMkMBOL DRIL BUpNOR BU",
  "v BZHI -KHYILwGSUM -KHYILwNYIS -KHYILpPADMA GDANqHUR PApRDO RJEw RGYA GRAMiVOWEL SIGN AAtEuEtIuItOuO",
  "tREVERSED I+dItUuUtVOCALIC L+cL+bR+cRcCKETcE OVER INFINITYcFINAGH CONSONANT JOINER",
  "jLETTER AHAGGAR YAZHrYER YAGHqBERBER ACADEMY YAH+hJqTAWELLEMET YAZrUAREG YAGH+aNzHzK+aHzNGzQzZHqYAsA",
  "sBtHsCHsDtDuHtHsFsGtHuHsHtHsJsKtHuHsLsMsNsPsQsRtRsStHtSsTtHtTsVsWsYsZtHtZrEsYrIrOrU",
  "jMODIFIER LETTER LABIALIZATION MARKjSEPARATOR MARKcGERf FACEdHT TRIFOLIATE SNOWFLAKEcLDEf OPERATOR",
  "o ABOVE LEFTWARDS ARROWvRIGHTWARDS ARROWpWITH DOT ABOVEuRISING DOTSgWITH DOT ABOVEpBELOWlRING ABOVE",
  "cMER CLOCKeS WITH LEFT HALF BLACKlRIGHT HALF BLACKcNYe TWO DOTS OVER ONE DOT PUNCTUATIONcRED FACE",
  "dHUTA ABBREVIATION SIGNjNJIiDIGIT EIGHToFIVEpOURoNINEoONEoSEVENpIXoTHREEpWOoZEROiGVANGiLETTER AqAqI",
  "qUpBAqHApCAqHApDAqDArHAqHApEpGAqHApHApIqIpJAqHApKAqHApLApMApNAqGAqNAqYApOpPAqHApRApSAqHAqSApTAqHAqTA",
  "rHApUqUpVAqOCALIC LyLxRyRpYAiOMiSIGN ANUSVARAoVAGRAHAnCANDRABINDUnNUKTAnVIRAMApSARGAiVOWEL SIGN AAuI",
  "uUtEtIuItOtSHORT EzOtUuUtVOCALIC L+cL+bR+cRdONIAN SIGN CAPITAL EToETbOILETcKYO TOWERcMATOcNGUEcOLBOX",
  "dTHfBRUSHcP ARC ANTICLOCKWISE ARROW+b WITH PLUSiCLOCKWISE ARROW WITH MINUSeCURLY BRACKET",
  "eHALF BLACK CIRCLEjINTEGRALjLEFT PARENTHESISjRIGHT PARENTHESISjSECTION SIGNgTeLEFT CORNERkROP",
  "jHALF BRACKETePARENTHESISeRIGHT CORNERlROPkHALF BRACKETeSQUARE BRACKETeTORTOISE SHELL BRACKET",
  "eWITH UPWARDS ARROW ABOVEcRTOISE SHELL BRACKETED CJK UNIFIED IDEOGRAPH-4E09+x8C+v52DD+wB89+v6253",
  "+w557+w72C+v70B9+w6D7zLATIN CAPITAL LETTER ScTAL RUNOUTdO LETTER AnEmBAnREATHY AEuEvOuIvUmCHAmDAmEnO",
  "mGAmHAmInUmJAmKAmLAmMAmNAnGAmOmPAmRAmSAmTAmUmWAmYAfSIGN RISING TONEbRACKBALLeTORdDE MARK SIGNdINdM",
  "e CARdNSPLUTOfVERSAL INTERSECTIONcIANGLE WITH DOT ABOVEoROUNDED CORNERSoSERIFS AT BOTTOMoUNDERBAR",
  "i-HEADED RIGHTWARDS ARROWgULAR BULLETlFLAG ON POSTlRULERdCOLONdDENT EMBLEMdGRAM FOR EARTHmFIRE",
  "mHEAVENmLAKEmMOUNTAINmTHUNDERmWATERnINDdPLE COLON OPERATORhDAGGER",
  "hHORIZONTAL BAR WITH DOUBLE VERTICAL STROKE+bTRIPLE VERTICAL STROKEhINTEGRALhNESTED GREATER-THAN",
  "oLESS-THANhPLUSiRIMEhSOLIDUS BINARY RELATIONhTILDEhVERTICAL BAR BINARY RELATIONuDELIMITER",
  "uRIGHT TURNSTILEuWITH HORIZONTAL STROKEcOLLfEYBUSdPHYeICAL DRINKjFISHcUEe LIGHT MOON ARTAdMPET",
  "bUGRIK SIGNcLIPcMBLER GLASScRKEYeISH LIRA SIGNdNED AMPERSANDiNGLEhBLACK PENTAGONnSHOGI PIECE",
  "hCAPITAL FiOMMAhDAGGERiIGIT THREEoWOhGREEK SMALL LETTER IOTAhNORTH EAST POINTING LEAF",
  "nWEST POINTING LEAFjT SIGNhOK HAND SIGNhSANS-SERIF CAPITAL G+aL+aYiEMICOLONiMALL F",
  "iOUTH EAST POINTING LEAFnWEST POINTING LEAFhWHITE SHOGI PIECEdTLEbWELVE POINTED BLACK STAR",
  "cISTED RIGHTWARDS ARROWScO ASTERISKS ALIGNED VERTICALLYeBUTTON MOUSEeCONSECUTIVE EQUALS SIGNS",
  "eDOT LEADERiPUNCTUATIONhS OVER ONE DOT PUNCTUATIONeHEARTSeINTERSECTING LOGICAL ANDzOReJOINED SQUARES",
  "eLOGICAL AND OPERATORmOR OPERATOReMEN HOLDING HANDSeSPEECH BUBBLESeWOMEN HOLDING HANDSd-EM DASH"]

def namesU : List String := [
  "aUGARITIC LETTER AINrLPAqBETAqDELTArHALqGAMLArHAINqHOsTAqIqKAFrHAqLAMDAqMEMqNUNqPUqQOPAqRASHAqSADE",
  "sMKArHINrSUqTETrHANNArOqUqWOqYODqZETArUjWORD DIVIDERbMBRELLAi ON GROUNDjWITH RAIN DROPSbNAMUSED FACE",
  "cCERTAINTY SIGNcDERTIEdO SYMBOLcICORN FACEdONf ABOVE BAR ABOVE INTERSECTIONmINTERSECTION",
  "gBESIDE AND JOINED WITH UNIONgWITH LOGICAL ORlMINUS SIGNlOVERBARdT SEPARATOReED SYMBOL",
  "dVERSAL RECYCLING SYMBOLcMARRIED PARTNERSHIP SYMBOLbP ARROW THROUGH CIRCLEiHEAD",
  "m BETWEEN TWO HORIZONTAL BARSnIN A RECTANGLE BOXdBARB LEFT DOWN BARB LEFT HARPOONxRIGHT HARPOON",
  "iRIGHT DOWN BARB LEFT HARPOONyRIGHT HARPOONdDOWN ARROWn WITH BASEiBLACK ARROWiDOUBLE ARROW",
  "iSANS-SERIF ARROWiTRIANGLE-HEADED ARROWiWHITE ARROWdFISH TAILdRIGHT DIAGONAL ELLIPSISdTACK",
  "h WITH CIRCLE ABOVEc-POINTING AIRPLANEmMILITARY AIRPLANEmRED TRIANGLEmSMALL AIRPLANEsRED TRIANGLE",
  "mTRIANGLE WITH LEFT HALF BLACK+aRIGHT HALF BLACK",
  "cPER AND LEFT AND LOWER TRIANGULAR THREE QUARTERS BLOCKlOWER ONE EIGHTH BLOCKqTRIANGULAR HALF BLOCK",
  "kRIGHT AND LOWER TRIANGULAR THREE QUARTERS BLOCKgBLADE SCISSORSgFIVE EIGHTHS BLOCKgHALF BLOCK",
  "q AND LOWER HALF INVERSE MEDIUM SHADElCIRCLElINVERSE MEDIUM SHADE AND LOWER HALF BLOCKtWHITE CIRCLE",
  "lMEDIUM SHADEgLEFT BLOCK DIAGONAL LOWER CENTRE TO LOWER MIDDLE RIGHT+qUPPER MIDDLE RIGHT+wRIGHT",
  "+gLEFT TO LOWER MIDDLE RIGHT+oUPPER CENTRE+uMIDDLE RIGHT+gMIDDLE LEFT TO UPPER CENTRE++bMIDDLE RIGHT",
  "++bRIGHT+aUPPER MIDDLE LEFT TO UPPER CENTRE++bRIGHTlCORNER WITH DOT",
  "lOR LOWER RIGHT CURLY BRACKET SECTIONlQUADRANT CIRCULAR ARClTO LOWER RIGHT FILLmRIANGLE",
  "rULAR MEDIUM SHADEgONE EIGHTH BLOCKkQUARTER BLOCK",
  "gRIGHT BLOCK DIAGONAL LOWER MIDDLE LEFT TO LOWER CENTRE++cRIGHT+bUPPER CENTRE TO LOWER MIDDLE RIGHT",
  "+xRIGHT+rUPPER MIDDLE RIGHT+hLEFT TO LOWER CENTRE+vMIDDLE RIGHT+pUPPER MIDDLE RIGHT",
  "+hMIDDLE LEFT TO LOWER CENTRE++cMIDDLE RIGHT++cRIGHTmDROP-SHADOWED WHITE SQUARE",
  "mOR LOWER LEFT CURLY BRACKET SECTIONmPENCILmQUADRANT CIRCULAR ARCmSHADOWED WHITE CIRCLE+bSQUARE",
  "mTO LOWER LEFT FILLnRIANGLEsULAR MEDIUM SHADEgSEVEN EIGHTHS BLOCKgTHREE EIGHTHS BLOCKmQUARTERS BLOCK",
  "hRIANGULAR ONE QUARTER BLOCKcSIDE-DOWN FACEcWARDS ANCORAjRROWn AND RIGHT ONE EIGHTH BLOCKoFROM BAR",
  "oLEFTWARDS OF DOWNWARDS ARROWoTO BARoWITH DOUBLE STROKEtEQUILATERAL ARROWHEADtHORIZONTAL STROKE",
  "tLARGE TRIANGLE ARROWHEADtMEDIUM TRIANGLE ARROWHEADtNOTCHED TAILtSMALL EQUILATERAL ARROWHEAD",
  "zTRIANGLE ARROWHEADtTIP LEFTWARDSxRIGHTWARDSiBLACK ARROWoCIRCLED WHITE ARROWiCOMPRESSED ARROW",
  "iDASHED ARROWjOUBLE ARROWiFINGER-POST ARROW",
  "iHARPOON WITH BARB LEFT BESIDE DOWNWARDS HARPOON WITH BARB RIGHT+mUPWARDS HARPOON WITH BARB RIGHT",
  "+fFROM BAR+fTO BAR+eWARDS+aRIGHT FROM BAR+gTO BAR+fWARDSjEAVY ARROWoCOMPRESSED ARROWiPAIRED ARROWS",
  "iQUADRUPLE ARROWiROCKETiSANS-SERIF ARROWjQUARED ARROWiTRIANGLE ARROWHEADq-HEADED ARROW",
  "+d LEFTWARDS OF DOWNWARDS TRIANGLE-HEADED ARROW+eTO BAR+eWITH BOLD SHAFT+jDOUBLE HORIZONTAL STROKE",
  "+jHEAVY SHAFT+jLONG TIP LEFTWARDS+sRIGHTWARDS+jMEDIUM SHAFT+jNARROW SHAFT+jVERY HEAVY SHAFT",
  "yDASHED ARROWyPAIRED ARROWSlPLE ARROWjWO HEADED ARROWl-HEADED ARROW FROM SMALL CIRCLE",
  "zWITH TRIANGLE ARROWHEADSiWHITE ARROWt FROM BAR+c WITH HORIZONTAL BARuON PEDESTAL",
  "+f WITH HORIZONTAL BAR+lVERTICAL BARuWITHIN TRIANGLE ARROWHEADoDOUBLE ARROW+a ON PEDESTALbRANUSbS"]

def namesV : List String := [
  "aVAI COMMAeDIGIT EIGHTkFIVElOURkNINEkONEkSEVENlIXkTHREElWOkZEROeFULL STOPeQUESTION MARKeSYLLABLE AoN",
  "nBAoEpEoHApEqEpIpOqOpUoIoOpOoUnCAoEpEoIoOpOoUnDAoEpEoHApEqEpHAqErEqIqOrOqUpIpOqOpUoIoOpOoUnEoEpNoN",
  "nFAoEpEoIoOpOoUnGAoBApEqEqNpIpOqNqOpUoEpEpNoIoOpOoUnHApNoEpEpNoIpNoOpNpOoUpNnIoNnJAoEpEoIoOpOoUnKApN",
  "oEpEoIoOpOoPAqNpEqEqNpIpOqOpUoUnLAoEpEpNGTHENERoIoOpOoUnMAoBApEqEpIpOqOpUoEpEoGBAqErEqIqOrOqUoIoOpO",
  "oUnNAoDApEqEpIpOqLE DOtFAtKAtMAtSOOqOpUoEpEoGpANpENpGAqErErNqIqOrOqUpONoIoJApEqEpIpOqOpUoOpOoUoYApE",
  "qEpIpOqOpUnOoNoOpNnPAoEpEoIoOpOoUnRAoEpEoIoOpOoUnSAoEpEoHApEqEpIpOqOpUoIoOpOoUnTAoEpEoHApEqEpIpOqOpU",
  "oIoOpOoUnUoNnVAoEpEoIoOpOoUnWApNoEpEqNpNoIpNoOpNpOqNoUpNnYAoEpEoIoOpOoUnZAoEpEoHApEqEpIpOqOpUoIoOpO",
  "oUgMBOL BANGlDANGmO-OnONGlFAAmEENGlJONGlKEENGmUNGlNIIlTAAmINGmONGcMPIREcRIATION SELECTOR-1u0v0v1v2v3",
  "v4v5v6v7v8v9u1v0v1v2v3v4v5v6v7v8v9u2v0v1v2v3v4v5v6v7v8v9u3v0v1v2v3v4v5v6v7v8v9u4v0v1v2v3v4v5v6v7v8v9",
  "u5v0v1v2v3v4v5v6v7v8v9u6v0v1v2v3v4v5v6v7v8v9u7v0v1v2v3v4v5v6v7v8v9u8v0v1v2v3v4v5v6v7v8v9u9v0v1v2v3v4",
  "v5v6v7v8v9t2u0v0v1v2v3v4v5v6v7v8v9u1v0v1v2v3v4v5v6v7v8v9u2v0v1v2v3v4v5v6v7v8v9u3v0v1v2v3v4v5v6v7v8v9",
  "u4v0v1v2v3v4v5v6v7v8v9u5v0v1v2v3v4v5v6u6u7u8u9t3u0u1u2u3u4u5u6u7u8u9t4u0u1u2u3u4u5u6u7u8u9t5u0u1u2u3",
  "u4u5u6u7u8u9t6u0u1u2u3u4u5u6u7u8u9t7u0u1u2u3u4u5u6u7u8u9t8u0u1u2u3u4u5u6u7u8u9t9u0u1u2u3u4u5u6u7u8u9",
  "bECTOR OR CROSS PRODUCTcDIC SIGN ANUSVARA ANTARGOMUKHAuBAHIRGOMUKHAuUBHAYATO MUKHAuVAMAGOMUKHA",
  "+f WITH TAILmRDHAVISARGAmTIKRAMAlDOUBLE ANUSVARA ANTARGOMUKHAlHEXIFORM LONG ANUSVARAlJIHVAMULIYA",
  "lLONG ANUSVARAlNIHSHVASAlREVERSED VISARGA ANUDATTA+cUDATTAmOTATED ARDHAVISARGAmTHANG LONG ANUSVARA",
  "lTIRYAKlUPADHMANIYAlVISARGA ANUDATTA+b WITH TAILtSVARITAtUDATTAz WITH TAIL",
  "lYAJURVEDIC MIDLINE SVARITAgTONE ATHARVAVEDIC INDEPENDENT SVARITAlCANDRA ABOVEsBELOWlDOT BELOW",
  "nUBLE RING ABOVEsSVARITAlKARSHANAnTHAKA ANUDATTAlPRENKHAlRIGVEDIC KASHMIRI INDEPENDENT SVARITA",
  "nNG ABOVElSHARAlTHREE DOTS BELOWmRIPLE SVARITAmWO DOTS BELOW",
  "lYAJURVEDIC AGGRAVATED INDEPENDENT SVARITAwINDEPENDENT SVARITAwKATHAKA INDEPENDENT SVARITA",
  "+x SCHROEDERcRSICLEdTICAL BAR BESIDE RIGHT TRIANGLEnDOUBLE LEFT TURNSTILEnTRIPLE RIGHT TURNSTILE",
  "nWITH HORIZONTAL STROKEjELLIPSISjFOUR DOTSjIDEOGRAPHIC ITERATION MARKjKANA REPEAT MARKz LOWER HALF",
  "+aUPPER HALFvWITH VOICED SOUND MARK+r UPPER HALFjLINEn EXTENSIONoWITH CIRCLE ABOVE+aBELOWtMIDDLE DOT",
  "jMALE WITH STROKE SIGNjONE EIGHTH BLOCK-2+a3+a4+a5+a6+a7jSIX DOTSjTAB KEYmULATIONt SETkILDE",
  "kRAFFIC LIGHTjZIGZAG LINEdY BOLD GREEK CROSSfHEAVY EIGHT POINTED BLACK STARrSPOKED ASTERISK",
  "lFIVE SPOKED ASTERISKlGREEK CROSSlREVERSE SOLIDUSlSALTIREmIX SPOKED ASTERISKmOLIDUSlWHITE CIRCLE",
  "rSQUAREfMUCH GREATER-THANkLESS-THANcSTAbIBRATION MODEcCTORY HANDcDEO CAMERAgGAMEfCASSETTE",
  "cETNAMESE ALTERNATE READING MARK CA+iNHAYdWDATA SQUAREcOLINcRGOcTHKUQI CAPITAL LETTER AyBBEzEyCEzHE",
  "yDEzHEyEzIyFEyGAyHAzHAyIzJEyJEyKAyLAzLAyMEyNEzJEyOyPEyQAyREySEzHEyTEzHEyUyVEyXEyYyZEjSMALL LETTER A",
  "wBBExEwCExHEwDExHEwExIwFEwGAwHAxHAwIxJEwJEwKAwLAxLAwMEwNExJEwOwPEwQAwREwSExHEwTExHEwUwVEwXEwYwZE",
  "bOIDED GREEK CROSScLCANOdLEYBALLdUME INTEGRALbS1d0e0e1e2e3e4e5e6e7e8e9d1e0e1e2e3e4e5e6e7e8e9d2e0e1e2",
  "e3e4e5e6e7e8e9d3e0e1e2e3e4e5e6e7e8e9d4e0e1e2e3e4e5e6e7e8e9d5e0e1e2e3e4e5e6e7e8e9d6e0e1e2e3e4e5e6e7e8",
  "e9d7e0e1e2e3e4e5e6e7e8e9d8e0e1e2e3e4e5e6e7e8e9d9e0e1e2e3e4e5e6e7e8e9c2d0e0e1e2e3e4e5e6e7e8e9d1e0e1e2",
  "e3e4e5e6e7e8e9d2e0e1e2e3e4e5e6e7e8e9d3e0e1e2e3e4e5e6e7e8e9d4e0e1e2e3e4e5e6e7e8e9d5e0e1e2e3e4e5e6d6d7",
  "d8d9c3d0d1d2d3d4d5d6d7d8d9c4d0d1d2d3d4d5d6d7d8d9c5d0d1d2d3d4d5d6d7d8d9c6d0d1d2d3d4d5d6d7d8d9c7d0d1d2",
  "d3d4d5d6d7d8d9c8d0d1d2d3d4d5d6d7d8d9c9d0d1d2d3d4d5d6d7d8d9bTcSbULCANUSdGAR FRACTION FIVE EIGHTHS",
  "vSIXTHSrOUR FIFTHSqONE EIGHTHuFIFTHuHALFuNINTHuQUARTERuSEVENTHvIXTHuTENTHvHIRDqSEVEN EIGHTHS",
  "qTHREE EIGHTHSwFIFTHSwQUARTERSrWO FIFTHSuTHIRDSqZERO THIRDS"]

def namesW : List String := [
  "aWAFFLEcNCHO DIGIT EIGHTnFIVEoOURnNINEnONEnSEVENoIXnTHREEoWOnZEROhLETTER ApAqNrGpNGpUoBAoCAoDAoEpN",
  "oFAoGAoHAoIpNGoJAoKApHAoLApLHAoMAoNApGApYAoOpNqGoPApHAoRAoSApHAoTApHApRApSAoUpENoVAoWAoYApIHoZA",
  "hNGUN SIGNhTONE KOIpNImTUPpNIdING CRESCENT MOON SYMBOLhGIBBOUS MOON SYMBOL",
  "cRANG CITI CAPITAL LETTER A+cM+cNG+cT+bBU+bDA+bE+cNN+dY+bGA+bHAR+cIYO+cOLO+dRR+bII+bKO+bNGAA+cUNG+bO",
  "+cDD+bPU+bSII+cSUU+bTTE+bUC+cU+bVIYO+bWI+bYA+cO+cU+dJmDIGIT EIGHTsFIVEtOURsNINEsONEsSEVENtIXsTHREE",
  "tWOsZEROmNUMBER EIGHTYtFIFTYuORTYtNINETYtSEVENTYuIXTYtTENuHIRTYuWENTYmOMmSMALL LETTER A+aM+aNG+aTzBU",
  "zDAzE+aNN+bYzGAzHAR+aIYO+aOLO+bRRzIIzKOzNGAA+aUNGzO+aDDzPUzSII+aSUUzTTEzUC+aUzVIYOzWIzYA+aO+aU+bJ",
  "dNING SIGNcSTEBASKETcTCHdER BUFFALOgCLOSETgPOLOgWAVEfMELONcVE ARROW POINTING DIRECTLY LEFT+dRIGHT",
  "fDASHdING BLACK FLAGhHAND SIGNhWHITE FLAGdY DASHfLINEgOW LINEfOVERLINEcXING CRESCENT MOON SYMBOL",
  "hGIBBOUS MOON SYMBOLbEARY CAT FACEgFACEcDDINGdGE-TAILED RIGHTWARDS ARROWcIERSTRASS ELLIPTIC FUNCTION",
  "dGHT LIFTERcST SYRIAC CROSSbHALEcEELf OF DHARMAfCHAIR SYMBOLcITE ARROW SHAFT WIDTH ONEyTWO THIRDS",
  "gBULLETgCHESS BISHOPs ROTATED NINETY DEGREES+bTWO HUNDRED SEVENTY DEGREESmEQUIHOPPER",
  "w ROTATED NINETY DEGREESmKINGq ROTATED NINETY DEGREESzTWO HUNDRED SEVENTY DEGREESnNIGHT",
  "s ROTATED FORTY-FIVE DEGREES+bNINETY DEGREES+bONE HUNDRED THIRTY-FIVE DEGREES",
  "+bTHREE HUNDRED FIFTEEN DEGREES+cWO HUNDRED SEVENTY DEGREES+nTWENTY-FIVE DEGREESs-BISHOPtQUEENtROOK",
  "mPAWNq ROTATED NINETY DEGREESzTWO HUNDRED SEVENTY DEGREESmQUEENr ROTATED NINETY DEGREES",
  "+aTWO HUNDRED SEVENTY DEGREESmROOKq ROTATED NINETY DEGREESzTWO HUNDRED SEVENTY DEGREESmTURNED BISHOP",
  "tKINGuNIGHTtPAWNtQUEENtROOKhIRCLEm CONTAINING BLACK SMALL CIRCLEnWITH DOT RIGHTuWN ARROW",
  "sLOWER LEFT QUADRANTyRIGHT QUADRANTsTWO DOTSsUPPER LEFT QUADRANTyRIGHT QUADRANThLUB SUIT",
  "hONCAVE-SIDED DIAMOND+b WITH LEFTWARDS TICK+hRIGHTWARDS TICKgDIAMOND",
  "n CONTAINING BLACK MEDIUM DIAMOND+fSMALL DIAMOND+fVERY SMALL DIAMONDoIN SQUAREoSUIToWITH CENTRED DOT",
  "hOWN POINTING BACKHAND INDEXuINDEXuLEFT HAND INDEXk-POINTING SMALL TRIANGLEuTRIANGLEhRAUGHTS KING",
  "pMANgEXCLAMATION MARK ORNAMENTgFLAGk WITH HORIZONTAL MIDDLE BLACK STRIPEiORETTEjWERhOUR POINTED CUSP",
  "tSTARhROWNING FACEgHARD SHELL FLOPPY DISKhEARTl SUITjVY CHECK MARKmSALTIRE WITH ROUNDED CORNERS",
  "iXAGONhORIZONTAL ELLIPSEiURGLASSgLARGE SQUAREiTIN CROSShEFT LANE MERGElPOINTING BACKHAND INDEXuINDEX",
  "k-POINTING POINTERuSMALL TRIANGLEuTRIANGLEhOZENGE CONTAINING BLACK SMALL LOZENGEgMEDIUM DIAMOND",
  "nLOZENGEnSMALL SQUAREoQUAREoTARhOON SELENAgNIBgPARALLELOGRAMhENNANTjTAGONgQUESTION MARK ORNAMENT",
  "gRECTANGLEhIGHT POINTING BACKHAND INDEXvINDEXl-POINTING PENTAGONwOINTERvSMALL TRIANGLEvTRIANGLE",
  "gSCISSORShESAME DOThHOGI PIECEhMALL LOZENGEmSQUAREnTARiILING FACEhPADE SUIThQUAREm BUTTON",
  "nCONTAINING BLACK MEDIUM SQUARE+eSMALL SQUARE+eVERY SMALL SQUAREnWITH CENTRE VERTICAL LINE",
  "sLEFTWARDS TICKtOWER LEFT QUADRANTyRIGHT QUADRANTsRIGHTWARDS TICKtOUNDED CORNERSsUPPER LEFT QUADRANT",
  "yRIGHT QUADRANTsVERTICAL BISECTING LINEhTARhUNj BEHIND CLOUDw WITH RAINkWITH RAYSpSMALL CLOUD",
  "gTELEPHONEhOUCHTONE TELEPHONEhRAPEZIUMiIANGLE CONTAINING SMALL WHITE TRIANGLE",
  "hWO-WAY LEFT WAY TRAFFICgUP POINTING BACKHAND INDEXsINDEXi-POINTING CHEVRONsSMALL TRIANGLEsTRIANGLE",
  "+a WITH DOTgVERTICAL BARpELLIPSEpRECTANGLEjY SMALL SQUAREf-FEATHERED RIGHTWARDS ARROW",
  "bIDE-HEADED DOWNWARDS BARB ARROWwHEAVY BARB ARROWwLIGHT BARB ARROWwMEDIUM BARB ARROW",
  "wVERY HEAVY BARB ARROWmLEFTWARDS BARB ARROWwHEAVY BARB ARROWwLIGHT BARB ARROWwMEDIUM BARB ARROW",
  "wVERY HEAVY BARB ARROWmNORTH EAST BARB ARROWxHEAVY BARB ARROWxLIGHT BARB ARROWxMEDIUM BARB ARROW",
  "xVERY HEAVY BARB ARROWsWEST BARB ARROWxHEAVY BARB ARROWxLIGHT BARB ARROWxMEDIUM BARB ARROW",
  "xVERY HEAVY BARB ARROWmRIGHTWARDS BARB ARROWxHEAVY BARB ARROWxLIGHT BARB ARROWxMEDIUM BARB ARROW",
  "xVERY HEAVY BARB ARROWmSOUTH EAST BARB ARROWxHEAVY BARB ARROWxLIGHT BARB ARROWxMEDIUM BARB ARROW",
  "xVERY HEAVY BARB ARROWsWEST BARB ARROWxHEAVY BARB ARROWxLIGHT BARB ARROWxMEDIUM BARB ARROW",
  "xVERY HEAVY BARB ARROWmUPWARDS BARB ARROWuHEAVY BARB ARROWuLIGHT BARB ARROWuMEDIUM BARB ARROW",
  "uVERY HEAVY BARB ARROWcGGLY VERTICAL LINEcLTED FLOWERcND BLOWING FACEfCHIMEeOWdE GLASSdKING FACE",
  "cRED KEYBOARDbJbOLF FACEcMANf WITH BUNNY EARSfS BOOTShCLOTHEShHAThSANDALdENS SYMBOLcN SIGNcOD",
  "cRD JOINERfSEPARATOR MIDDLE DOTdLD MAPdMdRIED FACEbRAPPED PRESENTcEATH PRODUCTdNCHdSTLERScITING HAND"]

def namesX : List String := [
  "aX IN A RECTANGLE BOXb-RAYbIANGQI BLACK CANNONpHARIOToELEPHANToGENERALoHORSEoMANDARINoSOLDIER",
  "iRED CANNONnHARIOTmELEPHANTmGENERALmHORSEmMANDARINmSOLDIERbOR"]

def namesY : List String := [
  "aYAWNING FACEbELLOW HEARTcN SIGNcZIDI COMBINING HAMZA MARKrMADDA MARKhHYPHENATION MARKhLETTER BE",
  "oCHHIMqIMpIMoDADqLoELIFpTpWpYNoFAoGAFoHAYpHAoJAoKAFpHAFoLAMr WITH DOT ABOVEoMIMoNUNoOWoPEpHEoQAFoRA",
  "pHAoSADpEpHINpINoTApHEoUMoVAq ALTERNATE FORMoWAWoXApHEYNoYOTr WITH CIRCUMFLEX ABOVEoZAqLpE",
  "bI RADICAL BBUTmURlCHEmIPmUOPmYnPnTlDDURmUlGAmEPmGOPnUOmOTlHMOmXITnOPnUOlJJIEnUTnYmOlKEmITlLInEmYR",
  "lMImOPlNBIEmYIPnOPmZUPlOPlPUTmYTlQOTlSHATnOPnURnYmSIlTATmUlVEPmURlWOlYITmOlZAmOTmUPnRmZIET",
  "dSYLLABLE AnPnTnXmBAoPoToXnBApPpTpXoEpPpXoIpEqPqTqXpPpTpXoOpPpTpXoUpOqPqXpPpRqXpTpXoYpPpTpXnEoPoXnI",
  "oEpPpTpXoPoToXnOoPoToXnUoOpPpXoPoRpXoToXnYoPoRpXoToXmCAoPoToXnEoPoXnHApPpTpXoEpPpTpXoOpPpTpXoUpOqPqT",
  "qXpPpRqXpXoYpPpRqXpTpXnIoEpPpTpXoPoToXnOoPoToXnUoOpPpXoPoRpXoToXnYoPoRpXoToXmDAoPoToXnDApPpTpXoEpPpX",
  "oIpEqPqXpPpTpXoOpPpTpXoUpOqPqXpPpRqXpTpXnEoPoXnIoEpPpXoPoToXnOoPoToXnUoOpXoPoRpXoToXmEnXmFAoPoToXnI",
  "oPoToXnOoPoXnUoPoRpXoToXnYoPoToXmGAoPoToXnEoPoToXnGApPpTpXoEpPpTpXoIpEqPqXpTpXoOpPpTpXoUpOqPqTqXpPpR",
  "qXpTpXnIoEpPpTpXoPoToXnOoPoToXnUoOpPpTpXoPoRpXoToXmHAoPoToXnEoPoXnIEpXoTnLApPpTpXoEpPpXoIpEqPqXpPpT",
  "pXoOpPpXoUpOqPqXpPpRqXpTpXoYpPpRqXpTpXnMApPpTpXoIpEqPqXpPpTpXoOpPpTpXoUpOqPqXpPpRqXpTpXoYpPpRqXpXnNA",
  "pPpTpXoEpPpXoIpEqPqTqXpPpTpXoOPpTpXoUOqXpTnOoPoToXnUOpPpTpXnXApPpTpXoEpPpXoIpEqPqTqXpPpTpXoOpPpTpX",
  "oUOqPqTqXmInEoPoToXnPnToERATION MARKnXmJIoEpPpTpXoPoToXnJIpEqPqTqXpPpTpXoOpPpTpXoUpOqPqXpPpRqXpTpXoY",
  "pPpTpXnOoPoToXnUoOpPpTpXoPoRpXoToXnYoPoRpXoToXmKAoPoToXnEoPoToXnIoEpPpXoPoToXnOoPoToXnUoOpPpXoPoRpX",
  "oToXmLAoPoToXnEoPoXnIoEpPpTpXoPoToXnOoPoToXnUoOpPpTpXoPoRpXoToXnYoPoRpXoToXmMAoPoToXnEoXnGApPpTpXoE",
  "pPpXoIEqXoOpPpTpXoUpOqPqXpPpRqXpTpXnIoEpPpXoPoToXnOoPoToXnUoOpPpTpXoPoRpXoToXnYoPoToXmNAoPoXnBApPpT",
  "pXoIpEqPqXpPpTpXoOpPpTpXoUpPpRqXpTpXoYpPpRqXpTpXnDApPpTpXoEpPpXoIpEqXpPpTpXoOpPpTpXoUpPpRqXpTpXnEoP",
  "oXnGApPpTpXoEpPpXoIEqPqXoOpPpTpXoUOqTqXnIoEpPpXoPoToXnJIpEqPqTqXpPpTpXoOpPpTpXoUpOqXpPpRqXpXoYpPpRqX",
  "pTpXnOoPoToXnRApPpTpXoEpPpTpXoOpPpXoUpPpRqXpTpXoYpPpRqXpTpXnUoOpPpXoPoRpXoToXnYIpEqPqTqXpPpTpXoOpPpT",
  "pXoUpOqPqXpPpTpXnZApPpTpXoEpXoIpEqPqXpPpTpXoOPpXoUpOqXpPpRqXpXoYpPpRqXpTpXmOnPnTnXmPAoPoToXnIoEpPpX",
  "oPoToXnOoPoToXnUoOpPpXoPoRpXoToXnYoPoRpXoToXmQIoEpPpTpXoPoToXnOoPoToXnUoOpPpTpXoPoRpXoToXnYoPoRpXoT",
  "oXmRAoPoToXnEoPoXnOoPoToXnRApXoEpPpTpXoOpPpTpXoUpOqXpPpRqXpTpXoYpPpRqXpTpXnUoOpPpXoPoRpXoToXnYoPoRpX",
  "oToXmSAoPoToXnEoPoXnHApPpTpXoEpPpTpXoOpPpTpXoUpOqPqXpPpRqXpTpXoYpPpRqXpTpXnIoEpPpXoPoToXnOoPoToXnSA",
  "pPpTpXoEpPpXoIpEqPqXpPpTpXoOpPpTpXoUpPpTpXoYpPpRqXpTpXnUoOpPpXoPoRpXoToXnYoPoRpXoToXmTAoPoToXnEoPoX",
  "nIoEpPpXoPoToXnOoPoToXnUoOpPpTpXoPoRpXoToXmUOoPoXmVAoPoToXnEPoXnIoEpPpTpXoPoToXnOoPoToXnUoPoRpXoToX",
  "nYoPoRpXoToXmWAoPoToXnEoPoXnOoPoXnUoOpPpXmXIoEpPpTpXoPoToXnOoPoToXnUOpXnYoPoRpXoToXmYIoEpPpTpXoPoToX",
  "nOoPoToXnUoOpPpTpXoPoRpXoToXnYoPoRpXoToXmZAoPoToXnEoPoXnHApPpTpXoEpPpTpXoOpPpTpXoUpOqPqXpPpRqXpTpXoY",
  "pPpRqXpTpXnIoEpPpXoPoToXnOoPoToXnUoOpPpXoPoRpXoToXnYoPoRpXoToXnZApPpTpXoEpPpXoIpEqPqTqXpPpTpXoOpPpX",
  "oUpPpRqXpXoYpPpRqXpTpXcN YANGbO-YO"]

def namesZ : List String := [
  "aZ NOTATION BAG MEMBERSHIPlDOMAIN ANTIRESTRICTIONlLEFT BINDING BRACKETqIMAGE BRACKET",
  "lRANGE ANTIRESTRICTIONmELATIONAL COMPOSITIONmIGHT BINDING BRACKETrIMAGE BRACKETlSCHEMA COMPOSITION",
  "sPIPINGtROJECTIONmPOTlTYPE COLONbANABAZAR SQUARE CLOSING DOUBLE-LINED HEAD MARKzHEAD MARK",
  "tUSTER-FINAL LETTER LA+mRA+mVA+mYAzINITIAL LETTER RArFINAL CONSONANT MARK",
  "rINITIAL DOUBLE-LINED HEAD MARKzHEAD MARKrLETTER -AyAyBAzHAyCAzHAyDAzDA+aHAzHAzZA+aHAyGAzHAyHAyJAyKA",
  "zHAzSSAyLAyMAyNAzGAzNAzYAyPAzHAyRAySAzHAzSAyTAzHAzSA+aHAzTA+aHAyVAyYAyZAzHArMARK DOUBLE SHAD",
  "wLONG TSHEGwSHADwTSHEGrSIGN ANUSVARAwCANDRA WITH ORNAMENT+cBINDU+h WITH ORNAMENTwVIRAMAySARGA",
  "sUBJOINERrVOWEL LENGTH MARKxSIGN AI+dU+cE+cI+cO+dE+cREVERSED I+cU+dEbEBRA FACEcRO WIDTH JOINER",
  "lNO-BREAK SPACEnN-JOINERlSPACEcUSbIPPER-MOUTH FACEbNAMENNY COMBINING ATTACHING VERTICAL OMET",
  "tLOWER TONAL RANGE INDICATORtMARK BORZAYAyCHASHKA+f POLNAYAzURVED OMETyDEMESTVENNY ZADERZHKA",
  "zVOETOCHIEyGORAZDO NIZKO ON LEFT+pRIGHT+mS KRYZHEM ON LEFT+zRIGHT+gVYSOKOyKACHKAzRYZH+d ON LEFT",
  "zUPNAYAyLOMKAyMALO POVYSHE ON LEFT+oRIGHT+lS KHOKHLOM ON LEFT+zRIGHT+oRYZHEM+mTRANNOyNIZKO ON LEFT",
  "+hRIGHT+eS KRYZHEM ON LEFT+rRIGHTyOBLACHKOzNzTSECHKAyPODCHASHIE+i WITH VERTICAL STROKE+bVERTKA",
  "+aVYSHE ON LEFT+jRIGHT+gS KHOKHLOM ON LEFT+uRIGHT+jRYZHEM+hTRANNOyRAVNO+aZSEKAySKOBAzOROCHYA NOZHKA",
  "zREDNE ON LEFT+iRIGHTzTRANNO MALO POVYSHEyTIKHAYAzOCHKAzSATA ON LEFT+hRIGHT+eS KRYZHEMyUDARKA",
  "yVYSOKO ON LEFT+iRIGHT+fS KHOKHLOM ON LEFT+tRIGHT+iRYZHEMyZADERZHKAzELO+aVOK",
  "tTONAL RANGE MARK MRACHNO+kSVETLO+kTRESVETLOjNEUME CHASHKArELYUSTKApDEMESTVENNY KLYUCHrRBITSA",
  "qOUBLE ZAPYATAYAqUDAqVA V CHELNUpFITApGOLUBCHIK BORZYzMRACHNYzSVETLYzTIKHY+aRESVETLYpKHAMILOqLYUCH",
  "qOBYLAqRYUKu TIKHYsZHqUFISMApMECHIKv KLYUCHENEPOSTOYANNY+dPOVODNY+dVOYwPOVODNYpNEMKApOBLAKOqSOKA",
  "u KLYUCHEVAYA NEPOSTOYANNAYA+hSVETLAYAwRYUKOVAYA SVETLAYAvSVETLAYAvTRESVETLAYApPALKArRAKLITrUK",
  "qEREVODKAy NEPOSTOYANNAYAqODCHASHIErLKULIZMYpREVERSED CHELYUSTKAqOG",
  "pSKAMEYTSA DVOECHELNAYA KLYUCHEVAYA+mNEPOSTOYANNAYA+mPROSTAYA+mSVETLAYAzKLYUCHENEPOSTOYANNAYA",
  "+gVAYA SVETLAYA+lTIKHAYAzMRACHNAYAzSVETLAYAzTIKHAYA+aRESVETLAYAqLOZHITIEy S KRYZHEM+bZAPYATOY",
  "zZAKRYTOEqTATYAv NEPOSTOYANNAYAwS DVUMYA ZAPYATYMIyKRYZHEM+f I ZAPYATOYyROGOMyZAPYATOY+g I KRYZHEM",
  "+jPODCHASHIEMwZAKRYTAYA+f S ZAPYATOYrOPITSAx S OCHKOMyWITH SOROCHYA NOZHKArRELA DVOECHELNAYA",
  "+i KLYUCHEVAYA+fOKRYZHEVAYA+gPOVODNAYA+p KLYUCHEVAYAwGROMNAYA+e WITH SINGLE ZAPYATAYA+aOKRYZHEVAYA",
  "+l POVODNAYA+bPOVODNAYA+k WITH DOUBLE ZAPYATAYA+qSINGLE ZAPYATAYAwKLYUCHENEPOSTOYANNAYA+dPOVODNAYA",
  "xRYUKOVAYA+g GROMNAYA+p WITH SINGLE ZAPYATAYA+lOKRYZHEVAYA+w POVODNAYA+mPOVODNAYA",
  "+v WITH DOUBLE ZAPYATAYA++bSINGLE ZAPYATAYA+hPOVODNAYA+hTRYASKAzZHEVAYAwMRACHNOTIKHAYA",
  "wNEPOSTOYANNAYAwPOLUPOVODNAYAyVODNAYAxROSTAYAwTIKHAYA PUTNAYAxRYASOGLASNAYA+cPOVODNAYA+cSTRELNAYA",
  "pVRAKHIYA KLYUCHEVAYA MRACHNAYA+kPROSTAYA+kSVETLAYA+kTRESVETLAYAyMRACHNAYAyPROSTAYAySVETLAYA",
  "yTRESVETLAYApZANOZHEKrPYATAYAqMEYTSAjPRIZNAK MODIFIER DIRECTION FLIP+aKRYZH+aLEVEL-2+g3+aROGbOMBIE",
  "bWJcNBSPdJcSP"]

end TreeLint.Text.CharacterName
