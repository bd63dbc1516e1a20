/-
  TreeLint/Text/CharacterName/MToR.lean
  =====================================
  **Names of characters that begin with M to R.**  The tables are those of Unicode 14.
-/

namespace TreeLint.Text.CharacterName

def namesM : List String := [
  "aMACRONcGEdIC WANDdNETcHAJANI ABBREVIATION SIGNjLETTER AqBArHAqCArHAqDArDAsHArHAqEqGArHAqHAqIqJArHA",
  "qKArHAqLAqMAqNArNArYAqOqPArHAqRArRAqSAqTArHArTAsHAqUqVAkIGATURE SHRIjSECTION MARKkIGN NUKTA",
  "dJONG TILE AUTUMNnBACKpMBOOnCHRYSANTHEMUMnEAST WINDoIGHT OF BAMBOOSwCHARACTERSxIRCLES",
  "nFIVE OF BAMBOOSvCHARACTERSwIRCLESoOUR OF BAMBOOSvCHARACTERSwIRCLESnGREEN DRAGONnJOKER",
  "nNINE OF BAMBOOSvCHARACTERSwIRCLESoORTH WINDnONE OF BAMBOOSuCHARACTERSvIRCLESoRCHIDnPLUMnRED DRAGON",
  "nSEVEN OF BAMBOOSwCHARACTERSxIRCLESoIX OF BAMBOOSuCHARACTERSvIRCLESoOUTH WINDoPRINGoUMMER",
  "nTHREE OF BAMBOOSwCHARACTERSxIRCLESoWO OF BAMBOOSuCHARACTERSvIRCLESnWEST WINDoHITE DRAGONoINTER",
  "cKASAR ANGKAiEND OF SECTIONiLETTER ApBApCApDApGApJApKApLApMApNAqGAqYApPApRApSApTApVApYAiPASSIMBANG",
  "iVOWEL SIGN EtItOtUcLAYALAM AU LENGTH MARKkDATE MARKlIGIT EIGHTqFIVErOURqNINEqONEqSEVENrIXqTHREErWO",
  "qZEROkFRACTION ONE EIGHTHxFIFTHyORTIETHxHALFxONE-HUNDRED-AND-SIXTIETHxQUARTERxSIXTEENTHxTENTH",
  "yWENTIETHtTHREE EIGHTIETHSzQUARTERSzSIXTEENTHSzTWENTIETHSkLETTER AsAsIsRCHAIC IIsUrBAsHArCAsHA",
  "tILLU KyLzL+aLyMyNzNyRRyYrDAsDAtHAsHAsOT REPHrEsErGAsHArHArIsIrJAsHArKAsHArLAsLAtLArMArNAsGAsNAtNA",
  "sYArOsOrPAsHArRAsRArSAsHAsSArTAsHAsTAtHAtTArUsUrVAsEDIC ANUSVARAsOCALIC L+aLzR+aRrYA",
  "kNUMBER ONE HUNDREDvTHOUSANDrTENkSIGN ANUSVARAqVAGRAHApCANDRABINDUqIRCULAR VIRAMA",
  "qOMBINING ANUSVARA ABOVEpPARApVERTICAL BAR VIRAMAqIRAMArSARGAkVOWEL SIGN AAwIwUvEwEvIwIvOwOvUwU",
  "vVOCALIC L+eL+dR+eRdE AND FEMALE SIGNfSIGNfWITH STROKE AND MALE AND FEMALE SIGNrSIGNdTESE CROSS",
  "cMMOTHcNd AND WOMAN HOLDING HANDSeDANCINGeIN BUSINESS SUIT LEVITATINGhTUXEDOeWITH GUA PI MAOjTURBAN",
  "dAT SIGNdDAIC AFFRICATION MARKiGEMINATION MARKiLETTER ABqDqGqHqINqKrSAqLqMqNqPqQqRqSrHrZqTrTqZ",
  "pDUSHENNApHALQApINqTpKADpUSHENNAiPUNCTUATIONiVOCALIZATION MARKdGOdICHAEAN ABBREVIATION MARK ABOVE",
  "+dBELOWlLETTER AAYINtLEPHtYINsBETHtHETHsDALETHtHAMEDHsFEsGHIMELtIMELsHEuTHsJAYINtHAYINsKAPHtHAPH",
  "sLAMEDHsMEMsNUNsPEsQHOPHtOPHsRESHsSADHEuMEKHtHINtSHINsTAWtETHtHAMEDHsWAWsXAPHtOPHsYODHsZAYINtHAYIN",
  "lNUMBER FIVEsONEv HUNDREDsTENtWENTYlPUNCTUATION DOT+a WITHIN DOTzUBLE DOT WITHIN DOTxFLEURON",
  "xLINE FILLERxSTARxTWO DOTSlSIGN UDdS SHOEdTELPIECE CLOCKdUAL WHEELCHAIRcP SYMBOL FOR LIGHTHOUSE",
  "dLE LEAFcRCHEN HEAD MARKiLETTER -ApApBApCAqHApDAqZApGApHApJApKAqHApLApMApNAqGAqYApPAqHApRApSAqHApTA",
  "qHAqSArHApWApYApZAqHAiMARK SHADiSIGN ANUSVARAnCANDRABINDUjUBJOINED LETTER AzBAzCA+aHAzDA+aZAzGAzHA",
  "zJAzKA+aHAzLAzMAzNA+aGA+aYAzPA+aHAzRAzSA+aHAzTA+aHA+aSA+bHAzWAzYAzZA+aHAiVOWEL SIGN AAtEtItOtU",
  "dRIAGE SYMBOLdTIAL ARTS UNIFORMcSARAM GONDI DIGIT EIGHTuFIVEvOURuNINEuONEuSEVENvIXuTHREEvWOuZERO",
  "oLETTER AwAwIwUvBAwHAvCAwHAvDAwDAxHAwHAvEvGAwHAvHAvIwIvJAwHAwNYAvKAwHAwSSAvLAwLAvMAvNAwGAwNAwYAvOvPA",
  "wHAvRAvSAwHAwSAvTAwHAwRAwTAxHAvUwUvVAvYAoRA-KARApEPHAoSIGN ANUSVARAtCANDRAtHALANTAtNUKTAtVISARGA",
  "oVIRAMApOWEL SIGN AA+aI+aUzEzI+aIzOzU+aUzVOCALIC RdCULINE ORDINAL INDICATORdK WORK SYMBOLdU MARK",
  "cTE DRINKdHEMATICAL BOLD CAPITAL A+bLPHA+aB+bETA+aC+bHI+aD+bELTA+bIGAMMA+aE+bPSILON+bTA+aF+aG+bAMMA",
  "+aH+aI+bOTA+aJ+aK+bAPPA+aL+bAMDA+aM+bU+aN+bU+aO+bMEGA+cICRON+aP+bHI+bI+bSI+aQ+aR+bHO+aS+bIGMA+aT+bAU",
  "+bHETA+f SYMBOL+aU+bPSILON+aV+aW+aX+bI+aY+aZ+bETAsDIGIT EIGHTyFIVEzOURyNINEyONEySEVENzIXyTHREEzWO",
  "yZEROsEPSILON SYMBOLsFRAKTUR CAPITAL A+iB+iC+iD+iE+iF+iG+iH+iI+iJ+iK+iL+iM+iN+iO+iP+iQ+iR+iS+iT+iU",
  "+iV+iW+iX+iY+iZ+aSMALL A+gB+gC+gD+gE+gF+gG+gH+gI+gJ+gK+gL+gM+gN+gO+gP+gQ+gR+gS+gT+gU+gV+gW+gX+gY+gZ",
  "sITALIC CAPITAL A+iLPHA+hB+iETA+hC+iHI+hD+iELTA+hE+iPSILON+iTA+hF+hG+iAMMA+hH+hI+iOTA+hJ+hK+iAPPA+hL",
  "+iAMDA+hM+iU+hN+iU+hO+iMEGA+jICRON+hP+iHI+iI+iSI+hQ+hR+iHO+hS+iIGMA+hT+iAU+iHETA+m SYMBOL+hU+iPSILON",
  "+hV+hW+hX+iI+hY+hZ+iETAzEPSILON SYMBOLzKAPPA SYMBOLzNABLAzPARTIAL DIFFERENTIAL+aHI SYMBOL+aI SYMBOL",
  "zRHO SYMBOLzSMALL A+gLPHA+fB+gETA+fC+gHI+fD+gELTA+fE+gPSILON+gTA+fF+gINAL SIGMA+fG+gAMMA+fH+fI+gOTA",
  "+fJ+fK+gAPPA+fL+gAMDA+fM+gU+fN+gU+fO+gMEGA+hICRON+fP+gHI+gI+gSI+fQ+fR+gHO+fS+gIGMA+fT+gAU+gHETA+fU",
  "+gPSILON+fV+fW+fX+gI+fY+fZ+gETAzTHETA SYMBOLsKAPPA SYMBOLsNABLAsPARTIAL DIFFERENTIALtHI SYMBOL",
  "tI SYMBOLsRHO SYMBOLsSCRIPT CAPITAL A+hB+hC+hD+hE+hF+hG+hH+hI+hJ+hK+hL+hM+hN+hO+hP+hQ+hR+hS+hT+hU+hV",
  "+hW+hX+hY+hZzSMALL A+fB+fC+fD+fE+fF+fG+fH+fI+fJ+fK+fL+fM+fN+fO+fP+fQ+fR+fS+fT+fU+fV+fW+fX+fY+fZ",
  "tMALL AzLPHAyBzETAyCzHIyDzELTAzIGAMMAyEzPSILONzTAyFzINAL SIGMAyGzAMMAyHyIzOTAyJyKzAPPAyLzAMDAyMzUyN",
  "zUyOzMEGA+aICRONyPzHIzIzSIyQyRzHOySzIGMAyTzAUzHETAyUzPSILONyVyWyXzIyYyZzETAsTHETA SYMBOL",
  "nDOUBLE-STRUCK CAPITAL A+jB+jD+jE+jF+jG+jI+jJ+jK+jL+jM+jO+jS+jT+jU+jV+jW+jX+jY+bDIGIT EIGHT+hFIVE",
  "+iOUR+hNINE+hONE+hSEVEN+iIX+hTHREE+iWO+hZERO+bSMALL A+hB+hC+hD+hE+hF+hG+hH+hI+hJ+hK+hL+hM+hN+hO+hP",
  "+hQ+hR+hS+hT+hU+hV+hW+hX+hY+hZnFALLING DIAGONALoRAKTUR CAPITAL A+dB+dD+dE+dF+dG+dJ+dK+dL+dM+dN+dO+dP",
  "+dQ+dS+dT+dU+dV+dW+dX+dYvSMALL A+bB+bC+bD+bE+bF+bG+bH+bI+bJ+bK+bL+bM+bN+bO+bP+bQ+bR+bS+bT+bU+bV+bW",
  "+bX+bY+bZnITALIC CAPITAL A+dLPHA+cB+dETA+cC+dHI+cD+dELTA+cE+dPSILON+dTA+cF+cG+dAMMA+cH+cI+dOTA+cJ+cK",
  "+dAPPA+cL+dAMDA+cM+dU+cN+dU+cO+dMEGA+eICRON+cP+dHI+dI+dSI+cQ+cR+dHO+cS+dIGMA+cT+dAU+dHETA+h SYMBOL",
  "+cU+dPSILON+cV+cW+cX+dI+cY+cZ+dETAuEPSILON SYMBOLuKAPPA SYMBOLuNABLAuPARTIAL DIFFERENTIALvHI SYMBOL",
  "vI SYMBOLuRHO SYMBOLuSMALL A+bLPHA+aB+bETA+aC+bHI+aD+bELTA+bOTLESS I+iJ+aE+bPSILON+bTA+aF",
  "+bINAL SIGMA+aG+bAMMA+aI+bOTA+aJ+aK+bAPPA+aL+bAMDA+aM+bU+aN+bU+aO+bMEGA+cICRON+aP+bHI+bI+bSI+aQ+aR",
  "+bHO+aS+bIGMA+aT+bAU+bHETA+aU+bPSILON+aV+aW+aX+bI+aY+aZ+bETAuTHETA SYMBOLnLEFT ANGLE BRACKET",
  "sDOUBLE ANGLE BRACKETsFLATTENED PARENTHESISsWHITE SQUARE BRACKETyTORTOISE SHELL BRACKET",
  "nMONOSPACE CAPITAL A+fB+fC+fD+fE+fF+fG+fH+fI+fJ+fK+fL+fM+fN+fO+fP+fQ+fR+fS+fT+fU+fV+fW+fX+fY+fZ",
  "xDIGIT EIGHT+dFIVE+eOUR+dNINE+dONE+dSEVEN+eIX+dTHREE+eWO+dZEROxSMALL A+dB+dC+dD+dE+dF+dG+dH+dI+dJ+dK",
  "+dL+dM+dN+dO+dP+dQ+dR+dS+dT+dU+dV+dW+dX+dY+dZnRIGHT ANGLE BRACKETtDOUBLE ANGLE BRACKET",
  "tFLATTENED PARENTHESIStWHITE SQUARE BRACKETzTORTOISE SHELL BRACKETpSING DIAGONAL",
  "nSANS-SERIF BOLD CAPITAL A+mLPHA+lB+mETA+lC+mHI+lD+mELTA+lE+mPSILON+mTA+lF+lG+mAMMA+lH+lI+mOTA+lJ+lK",
  "+mAPPA+lL+mAMDA+lM+mU+lN+mU+lO+mMEGA+nICRON+lP+mHI+mI+mSI+lQ+lR+mHO+lS+mIGMA+lT+mAU+mHETA+q SYMBOL",
  "+lU+mPSILON+lV+lW+lX+mI+lY+lZ+mETA+dDIGIT EIGHT+jFIVE+kOUR+jNINE+jONE+jSEVEN+kIX+jTHREE+kWO+jZERO",
  "+dEPSILON SYMBOL+dITALIC CAPITAL A+tLPHA+sB+tETA+sC+tHI+sD+tELTA+sE+tPSILON+tTA+sF+sG+tAMMA+sH+sI",
  "+tOTA+sJ+sK+tAPPA+sL+tAMDA+sM+tU+sN+tU+sO+tMEGA+uICRON+sP+tHI+tI+tSI+sQ+sR+tHO+sS+tIGMA+sT+tAU+tHETA",
  "+x SYMBOL+sU+tPSILON+sV+sW+sX+tI+sY+sZ+tETA+kEPSILON SYMBOL+kKAPPA SYMBOL+kNABLA",
  "+kPARTIAL DIFFERENTIAL+lHI SYMBOL+lI SYMBOL+kRHO SYMBOL+kSMALL A+rLPHA+qB+rETA+qC+rHI+qD+rELTA+qE",
  "+rPSILON+rTA+qF+rINAL SIGMA+qG+rAMMA+qH+qI+rOTA+qJ+qK+rAPPA+qL+rAMDA+qM+rU+qN+rU+qO+rMEGA+sICRON+qP",
  "+rHI+rI+rSI+qQ+qR+rHO+qS+rIGMA+qT+rAU+rHETA+qU+rPSILON+qV+qW+qX+rI+qY+qZ+rETA+kTHETA SYMBOL",
  "+dKAPPA SYMBOL+dNABLA+dPARTIAL DIFFERENTIAL+eHI SYMBOL+eI SYMBOL+dRHO SYMBOL+dSMALL A+kLPHA+jB+kETA",
  "+jC+kHI+jD+kELTA+jE+kPSILON+kTA+jF+kINAL SIGMA+jG+kAMMA+jH+jI+kOTA+jJ+jK+kAPPA+jL+kAMDA+jM+kU+jN+kU",
  "+jO+kMEGA+lICRON+jP+kHI+kI+kSI+jQ+jR+kHO+jS+kIGMA+jT+kAU+kHETA+jU+kPSILON+jV+jW+jX+kI+jY+jZ+kETA",
  "+dTHETA SYMBOLyCAPITAL A+gB+gC+gD+gE+gF+gG+gH+gI+gJ+gK+gL+gM+gN+gO+gP+gQ+gR+gS+gT+gU+gV+gW+gX+gY+gZ",
  "yDIGIT EIGHT+eFIVE+fOUR+eNINE+eONE+eSEVEN+fIX+eTHREE+fWO+eZEROyITALIC CAPITAL A+nB+nC+nD+nE+nF+nG+nH",
  "+nI+nJ+nK+nL+nM+nN+nO+nP+nQ+nR+nS+nT+nU+nV+nW+nX+nY+nZ+fSMALL A+lB+lC+lD+lE+lF+lG+lH+lI+lJ+lK+lL+lM",
  "+lN+lO+lP+lQ+lR+lS+lT+lU+lV+lW+lX+lY+lZySMALL A+eB+eC+eD+eE+eF+eG+eH+eI+eJ+eK+eL+eM+eN+eO+eP+eQ+eR",
  "+eS+eT+eU+eV+eW+eX+eY+eZoCRIPT CAPITAL A+cC+cD+cG+cJ+cK+cN+cO+cP+cQ+cS+cT+cU+cV+cW+cX+cY+cZuSMALL A",
  "+aB+aC+aD+aF+aH+aI+aJ+aK+aL+aM+aN+aP+aQ+aR+aS+aT+aU+aV+aW+aX+aY+aZcXIMIZEcYAN NUMERAL EIGHTtEEN",
  "pLEVENoFIFTEENqVEpOURsTEENoNINEsTEENoONEoSEVENtTEENpIXrTEENoTENpHIRTEENqREEpWELVEqOoZERO",
  "bEASURED ANGLEo OPENING LEFTpWITH OPEN ARM ENDING IN ARROW POINTING DOWN AND LEFT++lRIGHT",
  "++cLEFT AND DOWN++lUP++cRIGHT AND DOWN++mUP++cUP AND LEFT++jRIGHTjBYjRIGHT ANGLE WITH DOTdT ON BONE",
  "cCHANICAL ARMlLEGcDEFAIDRIN CAPITAL LETTER A+cI+cTIU+bB+bC+bD+bE+bF+bG+bH+cP+bI+bJ+bK+cP+bL+bM+bN+cG",
  "+cY+bO+cE+bP+bQ+bR+bS+bT+bU+bV+bW+bX+bY+cU+bZnOMMAmDIGIT EIGHTsFIVEtOURsNINEsONEv ALTERNATE FORM",
  "sSEVENtIXsTHREEx ALTERNATE FORMtWOv ALTERNATE FORMsZEROmEXCLAMATION OHmFULL STOPmNUMBER EIGHTEEN",
  "uLEVENtFIFTEENuOURTEENtNINETEENtSEVENTEENuIXTEENtTENuHIRTEENuWELVEmSMALL LETTER A+aI+aTIUzBzCzDzEzF",
  "zGzH+aPzIzJzK+aPzLzMzN+aG+aYzO+aEzPzQzRzSzTzUzVzWzXzY+aUzZnYMBOL AIVAdIEVAL COMMAjEXCLAMATION MARK",
  "jQUESTION MARKeUM BLACK CIRCLEiOLD WHITE CIRCLEhEIGHT POINTED BLACK STARnSPOKED ASTERISK",
  "hFIVE SPOKED ASTERISKiLATTENED LEFT PARENTHESIS ORNAMENTrRIGHT PARENTHESIS ORNAMENT",
  "iOUR POINTED BLACK STARuPINWHEEL STARhGREEK CROSShLEFT CURLY BRACKET ORNAMENTmPARENTHESIS ORNAMENT",
  "l-POINTING ANGLE BRACKET ORNAMENThMATHEMATICAL SPACEhRIGHT CURLY BRACKET ORNAMENT",
  "nPARENTHESIS ORNAMENTm-POINTING ANGLE BRACKET ORNAMENThSALTIREiHADEiIX POINTED BLACK STAR",
  "lSPOKED ASTERISKiMALL WHITE CIRCLEhTHREE POINTED BLACK STARvPINWHEEL STARhVERTICAL BARhWHITE CIRCLE",
  "nSQUAREcETEI MAYEK AHANG KHUDAMoNJIoPUN IYEKnCHEIKHANtEInDIGIT EIGHTtFIVEuOURtNINEtONEtSEVENuIX",
  "tTHREEuWOtZEROnLETTER ATIYAuBAvHAMuCHAwILuDDAwHAvHOUvILuEuGHOUvOKuHUKuIv LONSUMuJHAMvILuKHOUvOK",
  "x LONSUMuLAIx LONSUMuMITx LONSUMuNAw LONSUMvGOUy LONSUMvNAvYAuOuPAw LONSUMvHAMuRAIuSAMvHAvSAuTHOUvIL",
  "x LONSUMvTAwHAuUNuWAIuYANGoUM IYEKnSYLLABLE REPETITION MARKnVIRAMAoOWEL SIGN AAI+aUzNAPzUyCHEINAPyII",
  "zNAPyNUNGyONAPySOUNAPyUNAPzUyVISARGAyYENAPnWORD REPETITION MARKcLONdTING FACEcMO",
  "cNDE KIKAKUI COMBINING NUMBER HUNDRED THOUSANDS+mS+fMILLIONS+fTEENS+hN THOUSANDS+iS+gHOUSANDS",
  "oDIGIT EIGHTuFIVEvOURuNINEuONEuSEVENvIXuTHREEvWOoSYLLABLE M001 KI+a2 KA+a3 KU+a4 WI+a5 WA+a6 WU",
  "+a7 MIN+a8 MAN+a9 MUNz10 BI+a1 BA+a2 BU+a3 I+a4 A+a5 U+a6 DI+a7 DA+a8 DU+a9 SIz20 SA+a1 SU+a2 TI",
  "+a3 TA+a4 TU+a5 LI+a6 LA+a7 LU+a8 JI+a9 JAz30 JU+a1 YI+a2 YA+a3 YU+a4 FI+a5 FA+a6 FU+a7 NIN+a8 NAN",
  "+a9 NUNz40 HEE+a1 HA+a2 HOO+a3 NGGA+a4 KPEE+a5 WO+a6 HUAN+a7 MBEE+a8 KO+a9 WVAz50 PU+a1 PE+a2 HEN",
  "+a3 HIN+a4 LOO+a5 TE+a6 GBA+a7 NGON+a8 NYAN+a9 MENz60 NYON+a1 WVI+a2 MBA+a3 JO+a4 NDO+a5 KEE+a6 PO",
  "+a7 NDOO+a8 PI+a9 TOz70 GBO+a1 GBOO+a2 MBE+a3 LE+a4 KPU+a5 FE+a6 KOO+a7 VO+a8 FEE+a9 SOz80 YE+a1 PEE",
  "+a2 NGGU+a3 HEEI+a4 LEE+a5 VE+a6 LONG NGGE+a7 HUN+a8 FO+a9 DEEz90 NGGI+a1 TEE+a2 KPA+a3 GBEE+a4 MON",
  "+a5 KE+a6 HE+a7 BE+a8 NYEN+a9 PAy100 E+a1 FAN+a2 POO+a3 BOO+a4 TOO+a5 LONG MBOO+a6 LONG NGGOO+a7 GBE",
  "+a8 KPE+a9 YEEz10 LONG LE+a1 GA+a2 KPOO+a3 JE+a4 WOO+a5 NGGEE+a6 SE+a7 NEN+a8 WE+a9 NDEz20 NGGO",
  "+a1 YO+a2 MBU+a3 NDI+a4 GBI+a5 NDU+a6 WEE+a7 NGGUA+a8 HOOU+a9 NDAz30 HAN+a1 IN+a2 KPI+a3 FOO+a4 NJOO",
  "+a5 IN+a6 SOO+a7 EI+a8 BO+a9 WVEz40 HO+a1 YOO+a2 LONG MBO+a3 WEI+a4 VOO+a5 MBI+a6 NGGE+a7 O+a8 GBU",
  "+a9 NJEEz50 BEE+a1 VU+a2 NJA+a3 LO+a4 MUAN+a5 GI+a6 NGGOO+a7 JEE+a8 KPO+a9 NGGAAz60 JOO+a1 LONG MBE",
  "+a2 SEE+a3 EE+a4 NYIN+a5 OO+a6 GUEI+a7 GUAN+a8 GU+a9 NONz70 NYUN+a1 RA+a2 MBOO+a3 VEE+a4 MBO",
  "+a5 LONG JO+a6 HI+a7 NGUAN+a8 EN+a9 KUAz80 DOO+a1 DO+a2 VI+a3 LONG NGGO+a4 NGEN+a5 VA+a6 HU+a7 MBUU",
  "+a8 MBEE+a9 MUENz90 GEE+a1 NDEE+a2 NJU+a3 HON+a4 WUI+a5 AN+a6 SIA+a7 FUAdORAH WITH NINE BRANCHES",
  "dS SYMBOLcRCURYdOITIC CURSIVE FRACTION EIGHT TWELFTHS+bLEVEN TWELFTHS+aFIVE TWELFTHS+bOUR TWELFTHS",
  "+aNINE TWELFTHS+aONE HALF+eTWELFTH+aSEVEN TWELFTHS+bIX TWELFTHS+aTEN TWELFTHS+bHREE TWELFTHS",
  "+bWO TWELFTHSrLETTER AzRCHAIC SAyBAyDAyEyHHAyIyKAzHAyLAyMAyNAzEyOyPAyQAyRAySAzEyTAzEzOyWAyYA",
  "sOGOGRAM IMN+aRMTrNUMBER EIGHT+d HUNDRED+l THOUSAND+eTHOUSAND+dY THOUSANDyFIFTY+d THOUSAND+aVE",
  "+c HUNDRED+k THOUSAND+dTHOUSANDzORTY+d THOUSAND+aUR+c HUNDRED+k THOUSAND+dTHOUSANDyNINE+c HUNDRED",
  "+k THOUSAND+dTHOUSAND+cTY THOUSANDyONE+b HUNDRED+j THOUSAND+cTHOUSANDySEVEN+d HUNDRED+l THOUSAND",
  "+eTHOUSAND+dTY+f THOUSANDzIX+b HUNDRED+j THOUSAND+cTHOUSAND+bTY+d THOUSANDyTEN+b THOUSANDzHIRTY",
  "+e THOUSAND+aREE+d HUNDRED+l THOUSAND+eTHOUSANDzWENTY+e THOUSAND+aO+b HUNDRED+j THOUSAND+cTHOUSAND",
  "jHIEROGLYPHIC LETTER A+dBA+f-2+dDA+dE+dHHA+dI+dKA+eHA+dLA+dMA+dNA+f-2+eE+f-2+dO+dPA+dQA+dRA+f-2+dSA",
  "+f-2+eE+dTA+f-2+eE+f-2+eO+dWA+dYAwSYMBOL VIDJ+h-2dPERSONcSSAGE WAITINGcTRICAL BREVEjLONG OVER SHORT",
  "tTWO SHORTSjPENTASEMEjSHORT OVER LONGjTETRASEMEkRISEMEkWO SHORTS JOINEDuOVER LONGeObIAO LETTER AH",
  "nRCHAIC MAuNAvGAuZZAmBAnRImDAnDAnLHApYAnZAoHAoYIoZAmFAmGAnHAoHAmHAnHAmKAmLAnHAoYAnYAmMAnHAmNA",
  "oSALIZATIONnGAoHAnHAnNAoHAnYAoHAmPAnLAmQAnGAmREFORMED TONE-1+a2+a4+a5+a6+a8wSHAnTEmSAnHAnSAnYImTAnE",
  "nLHApYAnONE-2r3r4r5r6r7r8nSAoEoHAoSAnTAmVAnFAmWAmXAmYI DZHApKApNNApPApTAqSArHAqTAmZAnHAnSAoHAnZAoSA",
  "pYAoYAfSIGN ASPIRATIONkCONSONANT MODIFIER BARkREFORMED ASPIRATIONtVOICINGfTONE ABOVEkBELOWkRIGHT",
  "kTOP RIGHTfVOWEL SIGN ArArEsErHHrIrNsGrUqErArIrNsGrRsRqIrAsNtGrErGrIrNGrOsNGrUqNrGqOrERsYrGrOrU",
  "qROUNDED ER+aRqUrAsNtGrEIrIrNGrOGrUqVWqWrOqYrIrUIcCR DASH SYMBOLfON US SYMBOLeO SIGNfBEfPHONEfSCOPE",
  "cDDLE DOThTHIRD WHITE RIGHT POINTING INDEXdLINE HORIZONTAL ELLIPSIScLITARY HELMETjMEDALdKY WAY",
  "dL SIGNcNIBUSeDISCeMIZEdUS SIGNk IN TRIANGLElWITH COMMA ABOVEqDOT BELOWqFALLING DOTSqRISING DOTS",
  "gTILDEf-OR-PLUS SIGNdYcRRORg BALLbMSPbOBILE PHONEm OFFnWITH RIGHTWARDS ARROW AT LEFTcDELS",
  "eRN PENTATHLONdI ABBREVIATION SIGNfDANDAgIGIT EIGHTlFIVEmOURlNINElONElSEVENmIXlTHREEmWOlZERO",
  "gOUBLE DANDAfLETTER AnAnInUmBAnHAmCAnHAmDAnDAoHAnHAmEmGAnHAmHAmInImJAnHAmKAnHAmLAnLAmMAmNAnGAnNAnYA",
  "mOmPAnHAmRAmSAnHAnSAmTAnHAnTAoHAmUnUmVAnOCALIC LvLuRvRmYAfSIGN ANUSVARAlRDHACANDRAkHUVAkVIRAMAmSARGA",
  "fVOWEL SIGN AArIrUqEqIrIqOqUrUqVOCALIC LzLyRzReFIER BREVE WITH INVERTED BREVEjLETTER ACUTE ACCENT",
  "rLVEOLAR CLICKrPOSTROPHEqBEGIN HIGH TONEwLOW TONErILABIAL CLICKqCAPITAL AzEyBzARRED ByCyDyEyFyGyH",
  "z WITH STROKEyIyJyKyLyMyNyOzUyPyQyRzEVERSED E+hNyTyUyVyWrENTRED LEFT HALF RINGyRIGHT HALF RING",
  "rHINESE TONE YANG PING+iQU+iRU+iSHANG+eIN PING+hQU+hRU+hSHANGrIRCUMFLEX ACCENTrOLONrROSS ACCENT",
  "rYRILLIC ENzHARD SIGNzSOFT SIGNqDENTAL CLICKrOT HORIZONTAL BARuSLASHuVERTICAL BARsUBLE APOSTROPHE",
  "xPRIMEsWN ARROWHEADvTACKqEND HIGH TONEuLOW TONErXTRA-HIGH DOTTED LEFT-STEM TONE BAR+iTONE BAR",
  "+bLEFT-STEM TONE BAR+bTONE BARwLOW DOTTED LEFT-STEM TONE BAR+hTONE BAR+aLEFT-STEM TONE BAR+aTONE BAR",
  "qGEORGIAN NARrLOTTAL STOP+c WITH STROKErRAVE ACCENTqHALF TRIANGULAR COLON",
  "rIGH DOTTED LEFT-STEM TONE BAR+cTONE BARvLEFT-STEM TONE BARvTONE BARqLATERAL CLICKrEFT ARROWHEAD",
  "vHALF RINGvTACKrOW ACUTE ACCENTuCIRCUMFLEX ACCENTuDOTTED LEFT-STEM TONE BAR+bTONE BARwWN ARROWHEAD",
  "uGRAVE ACCENTuINVERTED EXCLAMATION MARKuLEFT ARROW+eHEADy-STEM TONE BARuMACRONuRIGHT ARROWHEADwNG",
  "uTILDEvONE BARuUP ARROWHEADuVERTICAL LINEtER RIGHT CORNER ANGLEqMACRONrID DOTTED LEFT-STEM TONE BAR",
  "+bTONE BARuLEFT-STEM TONE BARuTONE BARtDLE DOUBLE ACUTE ACCENT+eGRAVE ACCENTxGRAVE ACCENTsNUS SIGN",
  "qOPEN SHELFqPLUS SIGNrRIMEqRAISED COLONxDOWN ARROWxEXCLAMATION MARKxINVERTED EXCLAMATION MARK",
  "xUP ARROWrETROFLEX CLICK WITH RETROFLEX HOOKsVERSED COMMAzGLOTTAL STOP+l WITH STROKErHOTIC HOOK",
  "rIGHT ARROWHEADwHALF RINGwTACKqSHELFsORT EQUALS SIGNrMALL AxExINxLPHAwBx WITH HOOKxARRED OxETA",
  "xOTTOM HALF OwCx WITH CURLxAPITAL AA+eB+eG+f WITH HOOK+eH+eI+f WITH STROKE+fNVERTED R+eL+f WITH BELT",
  "+eN+eOE+eR+eU+eYxHIxLOSED OMEGA+dREVERSED OPEN EwDx WITH HOOK+h AND TAIL+dTAILxELTAyZH DIGRAPH",
  "xOTLESS J WITH STROKE+r AND HOOKxZ DIGRAPH+g WITH CURL+mRETROFLEX HOOKwExNGxSHxTHxZHwFxENG DIGRAPHwG",
  "x WITH HOOKxAMMAxREEK GAMMA+cPHIwHx WITH HOOK+dSTROKExENG+a WITH HOOKwI WITH STROKExOTAwJ",
  "x WITH CROSSED-TAILwKwLx WITH BELT+dINVERTED LAZY S+dMIDDLE TILDE+dPALATAL HOOK+dRETROFLEX HOOK",
  "+r AND BELTxEZH+a WITH RETROFLEX HOOKxIGATURE OExS DIGRAPHxZ DIGRAPHwMx WITH HOOKwN WITH LEFT HOOK",
  "+dRETROFLEX HOOKwOx WITH STROKExPEN E+bOwPxHIwQwRx WITH FISHHOOK+dTAILxAMS HORNxEVERSED E",
  "+fGLOTTAL STOP+fOPEN EwSx WITH CURL+dHOOKxCHWAyRIPT GxIDEWAYS UwTx WITH PALATAL HOOK+dRETROFLEX HOOK",
  "xC DIGRAPH WITH CURLxESH DIGRAPHxHETAxOP HALF OxS DIGRAPH+g WITH RETROFLEX HOOKxURNED A+eE+eLPHA+dH",
  "+dI+dM+e WITH LONG LEG+dOPEN E+dR+e WITH HOOK+kLONG LEG+s AND RETROFLEX HOOK+dV+dW+dY+e WITH BELTwU",
  "x BARyWITH LEFT HOOKxPSILONwVx WITH HOOK+dRIGHT HOOKwWwXwYwZx WITH CURL+dRETROFLEX HOOK",
  "rTRESS AND HIGH TONE+bLOW TONErUPERSCRIPT HALF TRIANGULAR COLON+cTRIANGULAR COLONqTRIANGULAR COLON",
  "rURNED COMMAqUNASPIRATEDrP ARROWHEADtTACKrSqVERTICAL LINErOICINGqYANG DEPARTING TONE MARK",
  "rIN DEPARTING TONE MARKdULO TWO SUMcNEY BAGgWITH WINGSf-MOUTH FACEdGOLIAN BIRGA",
  "p WITH DOUBLE ORNAMENTvORNAMENTkCOLONmMMAkDIGIT EIGHTqFIVErOURqNINEqONEqSEVENrIXqTHREErWOqZERO",
  "lOUBLE BIRGA WITH ORNAMENTkELLIPSISkFOUR DOTSlREE VARIATION SELECTOR FOUR+iONE+iTHREE+jWOlULL STOP",
  "kINVERTED BIRGAy WITH DOUBLE ORNAMENTkLETTER AsLI GALI A+bH+bNUSVARA ONE+aBALUDA+aCA+aDA+cGALGA",
  "+cMARU+bDA+aHALF U+fYA+aI+bNVERTED UBADAMA+aKA+aNGA+bNA+aPA+bHA+aSSA+aTA+bHREE BALUDA+bTA+cHA",
  "+aUBADAMA+aVISARGA ONE+aZA+bHAsNGrBArCHAu WITH TWO DOTStIrDArEsErFArGArHAArIrJArKAsHArLAsHArMA",
  "tNCHU ALI GALI BHA+hCA+iYA+hDDHA+iHA+hGHA+hJHA+hLHA+hNGA+hSSA+hTA+iTA+hZA+iHAyFAyIyKAyRAyZHArNArOsE",
  "rPArQArRArSAsHAsIBE ANGwCHAwDAwEwFAwGAyAwHAyAwIxYwJAwKAwPAwRAAwSHAwTAxSAwUxEwZAxHArTA",
  "sODO ALI GALI TA+fZHAxNGwBAwCHAwDAxZAwEwGAyAwHAAwIwJAxIAwKAwLONG VOWEL SIGNwMAwNIAwOxEwPAwQAwTAxSAwU",
  "xEwWAwYAsSArUsErWArYArZAsHIsRAkMANCHU COMMArFULL STOPkNIRUGUkROTATED BIRGAx WITH DOUBLE ORNAMENT",
  "+dORNAMENTkSIBE SYLLABLE BOUNDARY MARKERlWIRL BIRGAv WITH DOUBLE ORNAMENT+bORNAMENTkTODO SOFT HYPHEN",
  "lRIPLE BIRGA WITH ORNAMENTlURNED SWIRL BIRGA WITH DOUBLE ORNAMENTkVOWEL SEPARATORdKEYg FACE",
  "dOGRAM FOR EARTHnYANGoINeRAILeSTABLE SYMBOLcOD BUBBLEdN CAKEfVIEWING CEREMONYcSQUEfITO",
  "cTHER CHRISTMASdOR BOATgSCOOTERfIZED WHEELCHAIRfWAYcUNT FUJIfAINi BICYCLISTjCABLEWAYjRAILWAYdSE",
  "f FACEgTRAPdTHcVIE CAMERAcYAIbRO DANDAfIGIT EIGHTkFIVElOURkNINEkONEkSEVENlIXkTHREElWOkZERO",
  "fOUBLE DANDAeLETTER AlBAlCHUlDAnIlEmAlHAInOlKEAAEmHAImOlLAnNlMAEMmIMlNGImINlOmLmOlPAmHIlRImOlSHIlTA",
  "mEKmHEAlWAlYObUCH GREATER-THANfLESS-THANcLTANI LETTER ApBAqHApCAqHApDAqDArDArHAqHApEpGAqHApHApIpJA",
  "qJApKAqHApLApMApNAqNAqYApPAqHApRAqHAqRApSApTAqHAqTArHApUpVApYAiSECTION MARKeIMAPfPLE MUSICAL NOTES",
  "hICATION SIGNt IN DOUBLE CIRCLExLEFT HALF CIRCLExRIGHT HALF CIRCLExTRIANGLEuWITH DOT ABOVEzUNDERBAR",
  "pXfSETi MULTIPLICATIONjUNIONcSHROOMdIC FLAT SIGNgNATURAL SIGNgSHARP SIGNfAL KEYBOARDq WITH JACKS",
  "iNOTEiSCOREjYMBOL ARPEGGIATO DOWN+aUPpBEGIN BEAMvPHRASEvSLURvTIEqRACEtKETrEATH MARKsVEtISv REST",
  "pC CLEFqAESURAqIRCLE X NOTEHEADqLIMACUSsVISrUSTER NOTEHEAD BLACK+gWHITEqODArMBINING ACCENT",
  "+f-STACCATO+aUGMENTATION DOTzBENDzDOIT+bUBLE TONGUE+bWN BOWzFLAG-1+e2+e3+e4+e5+bIPzHARMONICzLOURE",
  "zMARCATO+g-STACCATOzRIPzSMEAR+aNAP PIZZICATO+aPRECHGESANG STEM+aTACCATISSIMO+gO+bEMzTENUTO+aREMOLO-1",
  "+h2+h3+bIPLE TONGUEzUP BOWsMON TIMEqRESCENDOrOIXqUT TIMEpDA CAPOrL SEGNOrMPt ALLrSHED BARLINE",
  "qECRESCENDOrGREE SLASHqOUBLE BARLINEwFLATwSHARPqRUM CLEF-1z2pEIGHTH NOTEwRESTqND BEAMtOF STIMME",
  "tPHRASEtSLURtTIEpF CLEFv OTTAVA ALTA+dBASSAqERMATAw BELOWqINAL BARLINEsGERED TREMOLO-1+g2+g3",
  "rVE-LINE STAFFqLAT DOWNuUPqORTErUR-LINE STAFFuSTRING FRETBOARDqUSA BLACKuWHITEpG CLEFv OTTAVA ALTA",
  "+dBASSAqLISSANDO DOWNzUPqRACE NOTE NO SLASH+aSLASHrEGORIAN C CLEFzF CLEFpHALF NOTEuPEDAL MARKuREST",
  "rUPTSTIMMEpINVERTED TURNpKIEVAN C CLEFwEIGHTH NOTE STEM DOWN+nUPxND OF PIECEwFINAL NOTExLAT SIGN",
  "wHALF NOTEwQUARTER NOTE STEM DOWN+oUPwRECITATIVE MARKwWHOLE NOTEqORONpLEFT REPEAT SIGNqONGA",
  "u IMPERFECTA RESTvPERFECTA RESTpMAXIMAqEZZOqINIMAv BLACKwRESTqOON NOTEHEAD BLACK+dWHITEqULTI REST",
  "uPLE MEASURE RESTpNATURAL DOWNxUPqEBENSTIMMEqOTEHEAD BLACKqULL NOTEHEAD",
  "pONE HUNDRED TWENTY-EIGHTH NOTE+pRESTs-LINE STAFFqRNAMENT STROKE-1+g0+g1+f2+f3+f4+f5+f6+f7+f8+f9",
  "qTTAVA ALTAwBASSApPARENTHESIS NOTEHEADqEDAL MARKvUP MARKrS SUBPUNCTISqIANOqLUS NOTEHEADqODATUS",
  "rRRECTUSy FLEXUSpQUARTER NOTExRESTxTONE FLAT+cSHARPrINDICESIMA ALTA+cBASSApREPEAT DOTSvED FIGURE-1",
  "+f2+f3rVERSE FINAL BARLINEqIGHT REPEAT SIGNrNFORZANDOpSCANDICUSy FLEXUSqEGNOrMIBREVIS BLACK+aREST",
  "+aWHITEtMINIMA BLACK+aREST+aWHITEqHARP DOWNvUPrORT BARLINEqINGLE BARLINErX-LINE STAFF",
  "tSTRING FRETBOARDsTEENTH NOTEzRESTtY-FOURTH NOTE+cRESTqORIqQUARE BwNOTEHEAD BLACK+fWHITEqUBITO",
  "pTEMPUS IMPERFECTUM CUM PROLATIONE IMPERFECTA++h DIMINUTION-1++t2++t3+xPERFECTA",
  "wPERFECTUM CUM PROLATIONE IMPERFECTA+vPERFECTA++d DIMINUTION-1qHIRTY-SECOND NOTE+dREST",
  "rREE-LINE STAFFqORCULUSx RESUPINUSqRrIANGLE NOTEHEAD DOWN BLACK+mWHITE+hLEFT BLACK+mWHITE",
  "+hRIGHT BLACK+nWHITE+hUP BLACK+kRIGHT BLACK+qWHITE+kWHITEx-ROUND NOTEHEAD DOWN BLACK+sWHITEqURN",
  "t SLASHuUPqWO-LINE STAFFpVIRGAqOID NOTEHEADpWHOLE NOTEvRESTqITH FINGERNAILSpX NOTEHEADpZbVSbW",
  "bYANMAR CONSONANT SIGN MEDIAL HA+eRA+eWA+eYAyON MEDIAL LA+iMA+iNAxSHAN MEDIAL WAiDIGIT EIGHToFIVE",
  "pOURoNINEoONEoSEVENpIXoTHREEpWOoZEROiLETTER AqITON RAqUpBAqHApCAqHApDAqDArHAqHApE",
  "qASTERN PWO KAREN GHWA+hNNA+hYWApGAqHAqREAT SApHApIqIpJAqHApKAqHAsMTI CAxHAwDDAyHAxHAwFAwGAwHAxHAwJA",
  "xHAwLLAwNAxYAwRAwSAwTTAyHAwXAwZApLAqLApMAqON BBAvEtEtJHAtNGApNAqGAqNArYAqYApOpPAqHApRA",
  "qUMAI PALAUNG FApSAqGAW KAREN SHAqHAsN AuBAvHAuCAvHAuDAuFAuGAvHAuHAuJHAuKAvHAuNAvNAvYAuPHAuTHAuZA",
  "rWE PALAUNG CHA+cSHAqSApTArI LAING BA+aHAzDA+aDA+bHA+aHAzFAzGA+aHAzJA+aHAzLLAzNNA+aYAqHAqTArHApUqU",
  "pVOCALIC LyLxRyRpWAqESTERN PWO KAREN PWA+hTHApYAjOGOGRAM KHAMTI HMyOAYyQN",
  "iMODIFIER LETTER KHAMTI REDUPLICATIONySHAN REDUPLICATIONiSHAN DIGIT EIGHTtFIVEuOURtNINEtONEtSEVENuIX",
  "tTHREEuWOtZEROjIGN ANUSVARAoSATnDOT BELOWnKHAMTI TONE-1z3nLITTLE SECTIONnPAO KAREN TONE",
  "nRUMAI PALAUNG TONE-5nSECTIONoHAN COUNCIL EMPHATIC TONE+aTONE-2+f3sSAWsTONE-2x3x5x6nTAI LAING TONE-2",
  "+c5nVIRAMApSARGAnWESTERN PWO KAREN TONE-1+k2+k3+k4+k5jYMBOL AFOREMENTIONEDqITON EXCLAMATIONvONEvTWO",
  "pCOMPLETEDpGENITIVEpLOCATIVEpSHAN EXCLAMATIONuONEiTAI LAING DIGIT EIGHTyFIVEzOURyNINEyONEySEVENzIX",
  "yTHREEzWOyZEROjONE MARK SGAW KAREN HATHI+dKE PHOiVOWEL SIGN AAuIvTON A+aItEu ABOVEtGEBA KAREN ItIuI",
  "tKAYAH EEzOEzUtMON IIxOtSGAW KAREN EUuHAN AAyEz ABOVEyFINAL YtTALL AAtUuUtVOCALIC L+cL+bR+cR",
  "tWESTERN PWO KAREN EU+lUE"]

def namesN : List String := [
  "aN-ARY CIRCLED DOT OPERATORoPLUS OPERATORoTIMES OPERATORhOPRODUCTgINTERSECTIONgLOGICAL ANDoOR",
  "gPRODUCTgSQUARE INTERSECTION OPERATORnUNION OPERATORhUMMATIONgTIMES OPERATORgUNION",
  "l OPERATOR WITH DOT+aPLUSgWHITE VERTICAL BARbABATAEAN CRUCIFORM NUMBER FOURkLETTER ALEPHsYINrBETH",
  "rDALETHrFINAL ALEPHxBETHxHExKAPHxLAMEDHxMEMxNUNxSHINxYODHrGIMELrHEtTHrKAPHrLAMEDHrMEMrNUNrPErQOPH",
  "rRESHrSADHEtMEKHsHINrTAWsETHrWAWrYODHrZAYINkNUMBER FIVEsOURrONEu HUNDREDrTENsHREEsWENTYtOdLA",
  "cIL POLISHdRA SIGNcKcME BADGEcNDeINAGARI HEADSTROKEmLETTER AuAuIuUtBAuHAtCAuHAtDAuDAvHAuHAtEtGAuHA",
  "tHAtIuItJAuHAtKAuHAtLAuLAtMAtNAuGAuNAuYAtOtPAuHAtRAuRAtSAuHAuSAtTAuHAuTAvHAtUuUtVAuOCALIC R+cRtYA",
  "mSIGN ANUSVARAsVAGRAHArSIDDHAMrVIRAMAtSARGAmVOWEL SIGN AAyIyUxExIyIxOxPRISHTHAMATRA ExUyUxVOCALIC R",
  "+gRcRROW NO-BREAK SPACEcTIONAL DIGIT SHAPESjPARKcUSEATED FACEcZAR AMULETbBHcSPbECKTIE",
  "cGATED DOUBLE VERTICAL BAR DOUBLE RIGHT TURNSTILEfIVE ACKNOWLEDGEjCIRCLED DIGIT ZERO",
  "rLATIN CAPITAL LETTER A+mB+mC+mD+mE+mF+mG+mH+mI+mJ+mK+mL+mM+mN+mO+mP+mQ+mR+mS+mT+mU+mV+mW+mX+mY+mZ",
  "rNUMBER EIGHTEENzLEVENyFIFTEENzOURTEENyNINETEENySEVENTEENzIXTEENyTHIRTEENzWELVE+bNTYrSQUARErTRIANGLE",
  "jDIAGONAL CROSSsDIAMONDsMIDDLE RIGHT TO LOWER CENTREjSQUARED ABrCROSS MARKrICrLATIN CAPITAL LETTER A",
  "+mB+mC+mD+mE+mF+mG+mH+mI+mJ+mK+mL+mM+mN+mO+mP+mQ+mR+mS+mT+mU+mV+mW+mX+mY+mZrPArQUESTION MARKrSArWC",
  "cITHER A SUBSET OF NOR EQUAL TOmPERSET OF NOR EQUAL TOjPPROXIMATELY NOR ACTUALLY EQUAL TO",
  "iGREATER-THAN NOR EQUAL TO+cIVALENT TOzLESS-THANiLESS-THAN NOR EQUAL TOzIVALENT TOwGREATER-THANcL",
  "cPTUNEh FORM TWOcRD FACEcSSUSdT WITH EGGSeING DOLLScUTEReRAL CHESS BISHOPu ROTATED NINETY DEGREES",
  "+dTWO HUNDRED SEVENTY DEGREESoEQUIHOPPERy ROTATED NINETY DEGREESoKINGs ROTATED NINETY DEGREES",
  "+bTWO HUNDRED SEVENTY DEGREESpNIGHTu ROTATED FORTY-FIVE DEGREES+dNINETY DEGREES",
  "+dONE HUNDRED THIRTY-FIVE DEGREES+dTHREE HUNDRED FIFTEEN DEGREES+eWO HUNDRED SEVENTY DEGREES",
  "+pTWENTY-FIVE DEGREESoPAWNs ROTATED NINETY DEGREES+bTWO HUNDRED SEVENTY DEGREESoQUEEN",
  "t ROTATED NINETY DEGREES+cTWO HUNDRED SEVENTY DEGREESoROOKs ROTATED NINETY DEGREES",
  "+bTWO HUNDRED SEVENTY DEGREESoTURNED BISHOPvKINGwNIGHTvPAWNvQUEENvROOKiFACEcW LINEeMOON SYMBOL",
  "jWITH FACEeSHEQEL SIGNeTAI LUE DIGIT EIGHTsFIVEtOURsNINEsONEsSEVENtIXsTHREEtWOsZEROmLETTER FINAL BzD",
  "zKzMzN+aGzVtHIGH BAyDAyFAyHAyKAzVAyLAyMAyNAzGAyPAzHAyQAySAzUAyTAzHAzSAyVAyXAzVAyYAtLOW BAxDAxFAxHA",
  "xKAyVAxLAxMAxNAyGAxPAyHAxQAxSAyUAxTAyHAySAxVAxXAyVAxYAmSIGN LAEuVmTHAM DIGIT ONEnONE MARK-1w2",
  "mVOWEL SIGN AAzYyEyYxExIIyYxOyAzYyYxUyEzYyUyYxVOWEL SHORTENERdA ABBREVIATION SIGNfCOMMAfDANDA",
  "gIGIT EIGHTlFIVEmOURlNINElONElSEVENmIXlTHREEmWOlZEROgOUBLE COMMAmDANDAfGAP FILLERfINSERTION SIGN",
  "fLETTER AnAnInUmBAnHAmCAnHAmDAnDAoHAnHAmEmGAnHAmHAmInImJAnHAmKAnHAmLAnHAmMAnHAmNAnGAoHAnHAnNAnYAoHA",
  "mOmPAnHAmRAnHAmSAnHAnSAmTAnHAnTAoHAmUnUmVEDIC ANUSVARAnOCALIC LvLuRvRmWAmYAfOMfPLACEHOLDER MARK",
  "fSANDHI MARKgIDDHIhGN ANUSVARAlVAGRAHAkCANDRABINDUkFINAL ANUSVARAkJIHVAMULIYAkNUKTAkUPADHMANIYA",
  "kVIRAMAmSARGAfVOWEL SIGN AArIrUqEqIrIqOqUrUqVOCALIC LzLyRzRdLINE LEFTiRIGHTdSPAPERcXT LINEfPAGE",
  "bIGHT WITH STARScNJAbKO COMBINING DOUBLE DOT ABOVEoLONG DESCENDING TONEtHIGH TONEtLOW TONE",
  "tRISING TONEoNASALIZATION MARKoSHORT HIGH TONEuLOW TONEuRISING TONEhMAeDANTAYALANfIGIT EIGHTkFIVE",
  "lOURkNINEkONEkSEVENlIXkTHREElWOkZEROfOROME SIGNeEXCLAMATION MARKeHIGH TONE APOSTROPHEeLAJANYALAN",
  "fETTER AlBAlCHAlDAnGBASINNAlEmElFAlGBAlHAlIlJAmONA CHAqJAqRAlKAlLAlMAlNmAn WOLOSOmYAo WOLOSOlOmOlPA",
  "lRAmRAlSAlTAlUlWAlYAfOW TONE APOSTROPHEeSYMBOL GBAKURUNENlOO DENNENeTAMAN SIGNbLbNBSPbO BICYCLES",
  "eREAK HEREdENTRYi SIGNdMOBILE PHONESdONE UNDER EIGHTEEN SYMBOLdPEDESTRIANSeIRACYdSMOKING SYMBOL",
  "c-BREAK SPACEcMINAL DIGIT SHAPESeSMA SIGNcN-BREAKING HYPHENePOTABLE WATER SYMBOLdFORKINGcR",
  "dDIC MARK SIGNdMAL SUBGROUP OFs OR EQUAL TOdTH EAST AND SOUTH WEST ARROWmRROWq AND SOUTH EAST ARROW",
  "rCROSSING NORTH WEST ARROW+aSOUTH EAST ARROWrWITH HOOKlBLACK ARROWlDOUBLE ARROWlPOINTING BUDuLEAF",
  "uVINE LEAFlSANS-SERIF ARROWlTRIANGLE-HEADED ARROW+g TO BARlWHITE ARROWgINDIC FRACTION ONE EIGHTH",
  "zHALFzQUARTERzSIXTEENTHvTHREE QUARTERS+bSIXTEENTHSmPLACEHOLDER MARKmQUANTITY MARKpRTER MARK",
  "mRUPEE MARKgWEST AND SOUTH EAST ARROWmRROWq AND NORTH EAST ARROWrCROSSING NORTH EAST ARROWrTO CORNER",
  "uLONG BARrWITH HOOKlBLACK ARROWlDOUBLE ARROWlPOINTING BUDuLEAFuVINE LEAFlSANS-SERIF ARROW",
  "lTRIANGLE-HEADED ARROW+g TO BARlWHITE ARROWfEAST-POINTING AIRPLANEcSEcT A SUBSET OFiPERSET OF",
  "fLMOST EQUAL TOfN ELEMENT OFfSYMPTOTICALLY EQUAL TOeCHECK MARKeEQUAL TOhIVALENT TOeGREATER-THAN",
  "eIDENTICAL TOeLESS-THANeNORMAL SUBGROUP OFw OR EQUAL TOePARALLEL TOeSIGNfQUARE IMAGE OF OR EQUAL TO",
  "lORIGINAL OF OR EQUAL TOeTILDEfRUEdCHED LEFT SEMICIRCLE WITH THREE DOTS",
  "jOWER RIGHT-SHADOWED WHITE RIGHTWARDS ARROWiRIGHT SEMICIRCLE WITH THREE DOTS",
  "iUPPER RIGHT-SHADOWED WHITE RIGHTWARDS ARROWdEe PADhGEeBOOKi WITH DECORATIVE COVERbULdL",
  "cMBER EIGHTEEN FULL STOPiLEVEN FULL STOPhFIFTEEN FULL STOPiOURTEEN FULL STOPhNINETEEN FULL STOP",
  "hSEVENTEEN FULL STOPiIGNjXTEEN FULL STOPhTEN FULL STOPiHIRTEEN FULL STOPiWELVE FULL STOP",
  "kNTY FULL STOPdERO SIGNcSHU CHARACTER-1B170u1u2u3u4u5u6u7u8u9uAuBuCuDuEuFt80u1u2u3u4u5u6u7u8u9uAuBuC",
  "uDuEuFt90u1u2u3u4u5u6u7u8u9uAuBuCuDuEuFtA0u1u2u3u4u5u6u7u8u9uAuBuCuDuEuFtB0u1u2u3u4u5u6u7u8u9uAuBuC",
  "uDuEuFtC0u1u2u3u4u5u6u7u8u9uAuBuCuDuEuFtD0u1u2u3u4u5u6u7u8u9uAuBuCuDuEuFtE0u1u2u3u4u5u6u7u8u9uAuBuC",
  "uDuEuFtF0u1u2u3u4u5u6u7u8u9uAuBuCuDuEuFs200u1u2u3u4u5u6u7u8u9uAuBuCuDuEuFt10u1u2u3u4u5u6u7u8u9uAuBuC",
  "uDuEuFt20u1u2u3u4u5u6u7u8u9uAuBuCuDuEuFt30u1u2u3u4u5u6u7u8u9uAuBuCuDuEuFt40u1u2u3u4u5u6u7u8u9uAuBuC",
  "uDuEuFt50u1u2u3u4u5u6u7u8u9uAuBuCuDuEuFt60u1u2u3u4u5u6u7u8u9uAuBuCuDuEuFt70u1u2u3u4u5u6u7u8u9uAuBuC",
  "uDuEuFt80u1u2u3u4u5u6u7u8u9uAuBuCuDuEuFt90u1u2u3u4u5u6u7u8u9uAuBuCuDuEuFtA0u1u2u3u4u5u6u7u8u9uAuBuC",
  "uDuEuFtB0u1u2u3u4u5u6u7u8u9uAuBuCuDuEuFtC0u1u2u3u4u5u6u7u8u9uAuBuCuDuEuFtD0u1u2u3u4u5u6u7u8u9uAuBuC",
  "uDuEuFtE0u1u2u3u4u5u6u7u8u9uAuBuCuDuEuFtF0u1u2u3u4u5u6u7u8u9uAuBgITERATION MARKcT AND BOLT",
  "bYIAKENG PUACHUE HMONG CIRCLED CAxDIGIT EIGHT+dFIVE+eOUR+dNINE+dONE+dSEVEN+eIX+dTHREE+eWO+dZERO",
  "xLETTER A+fA+eCA+eDA+fLA+eE+fE+eFA+eGA+eHA+gH+eI+eKA+eLA+eMA+fLA+eNA+fCA+fKA+fPA+gLA+fQA+fRA+fTA+gSA",
  "+gXA+fYA+eO+fO+ePA+fLA+eQA+eRA+fRA+eSA+eTA+fSA+fXA+eU+eVA+eW+eXA+fYA+eYA+eZAyOGOGRAM NYAJ",
  "xSIGN FOR ANIMAL+gINVERTEBRATE+gLOCATION+gPERSON+gTHING+cXW XWyYLLABLE LENGTHENERxTONE-B+cD+cG+cJ+cM",
  "+cS+cV"]

def namesO : List String := [
  "aOBJECT REPLACEMENT CHARACTERcLIQUE ANGLE OPENING DOWNwUPiHYPHENcSERVER EYE SYMBOL",
  "bCR AMOUNT OF CHECKeBELT BUCKLEfOW TIEfRANCH BANK IDENTIFICATIONeCHAIRfUSTOMER ACCOUNT NUMBEReDASH",
  "fOUBLE BACKSLASHeFORKeHOOKeINVERTED FORKcTAGONAL SIGNdOPUSbDENbFFICE BUILDINGbGHAM FEATHER MARK",
  "gLETTER AILMnBEITHnCEIRToOLLnDAIRnEABHADHpDHADHpMHANCHOLLnFEARNnGORTnIFINoODHADHnLUISnMUINnNGEADAL",
  "oIONnONNoRnPEITHnRUISnSAILoTRAIFnTINNEnUATHoILLEANNoRgREVERSED FEATHER MARKgSPACE MARKcONEKbHM SIGN",
  "bIL DRUMbK HAND SIGNbL CHIKI AHADjDIGIT EIGHTpFIVEqOURpNINEpONEpSEVENqIXpTHREEqWOpZERO",
  "jGAAHLAA TTUDDAAGjLETTER AAJsKsMsWrGrLrNGrTqEDDrNrPrRRqIHrNYrRrSqLAsArErIrOrUqOBrHrTTrVqUCrDrNNrY",
  "jMU TTUDDAGl-GAAHLAA TTUDDAAGjPHAARKAAkUNCTUATION DOUBLE MUCAADvMUCAADjRELAAcD CHINESE HOOK MARK",
  "mITERATION MARKeHUNGARIAN CAPITAL LETTER A+eA+eK+eMB+eND+dCLOSE E+dE+eB+eC+fH+fS+eD+eE+eF+eG+fY+eH",
  "+eJ+eK+eL+fY+eM+fP+eN+fC+fT+g-SHAPED SIGN+fY+eP+eR+eS+fZ+eT+fY+eV+eZ+fS+dI+eI+dNIKOLSBURG OE+oUE+dO",
  "+eEE+eO+dRUDIMENTA OE+nUE+dSHORT ER+dU+eNK+eS+eUoNUMBER FIFTYxVEvONEy HUNDREDzTHOUSANDvTEN",
  "oSMALL LETTER A+cA+cK+cMB+cND+bCLOSE E+bE+cB+cC+dH+dS+cD+cE+cF+cG+dY+cH+cJ+cK+cL+dY+cM+dP+cN+dC+dT",
  "+e-SHAPED SIGN+dY+cP+cR+cS+dZ+cT+dY+cV+cZ+dS+bI+cI+bNIKOLSBURG OE+mUE+bO+cEE+cO+bRUDIMENTA OE+lUE",
  "+bSHORT ER+bU+cNK+cS+cUeITALIC LETTER AsBEsCHEsDEsEtFtKStLtMtNtRuStSuHuSsHEsItIsKAtEtHEtU",
  "sNORTHERN TSEsOsPEtHEsSHEtOUTHERN TSEsTEtHEsUtUsVEsYEsZElNUMERAL FIFTYvVEtONEtTENeKEY",
  "eNORTH ARABIAN LETTER AIN+aLEFzBEHzDAD+bLzES-1+c2+c3zFEHzGEEM+aHAINzHAH+aEHzKAF+aHAHzLAMzMEEMzNOON",
  "zQAFzREHzSADzTAH+aEH+aHAL+bEHzWAWzYEHzZAH+bINsNUMBER ONEzTEN+aWENTYePERMIC LETTER ANsBURsCHERYsDOI",
  "tZHOIuITAsEtFsGAIsHAsItAtEsKOKEsLEIsMENOEsNENOEsOtOsPEEIsREIsSHCHOOIuOOItIIsTAItSIUsUsVERtOOIsYAuT",
  "tERvIvUtRYtUsZATAtHOIhSIAN NUMBER HUNDREDtONEtTENuWENTYvOmSIGN AsURAMAZDAA+b-2+bHArBAtGAsUUMISHrCA",
  "rDAtHYAAUSH+a-2sIsUrFArGAsUrHArIrJAsIrKAsUrLArMAsIsUrNAsUrPArRAsUrSAsHAsSArTAsHAsUrUrVAsIrXA",
  "sSHAAYATHIYArYArZAmWORD DIVIDERiONAL COMPUTEReSOGDIAN FRACTION ONE HALFmLETTER ALEPHvTERNATE AYIN",
  "uYINtBETHtFINAL ALEPHzBETHzHEzNUN+c WITH VERTICAL TAILzSADHE+e WITH VERTICAL TAILzTAW",
  "+c WITH VERTICAL TAILtGIMELtHEvTHtKAPHtLAMEDHtMEMtNUNtPEtRESH-AYIN-DALETHtSADHEvMEKHuHINtTAWtWAW",
  "tYODHtZAYINnIGATURE AYIN-DALETHmNUMBER FIVEuOURtONEw HUNDREDtTENuHIRTYvREEuWENTYvO",
  "gUTH ARABIAN LETTER ALEF+aYNzBETHzDALETH+aHADHE+cLETHzFEzGHAYN+aIMELzHE+bTHzKAPH+aHETHzLAMEDHzMEM",
  "zNUNzQOPHzRESHzSADHE+bMEKH+bT+aHINzTAW+aETH+aHAW+bETHzWAWzYODHzZAYNsNUMBER FIFTYzONEvERIC INDICATOR",
  "eTURKIC LETTER ORKHON A+aB+aD+aEB+bD+bG+bK+bL+bN+bR+bS+bT+bY+aG+aL+aN+aQ+aR+aS+bH+aT+aYzBASHzEC+aLT",
  "+aM+aNC+bG+bT+bY+aP+aSH+aZzI+aC+aQzO+aE+bK+aP+aQ+aTsYENISEI A+bB+bD+bE+cB+cG+cK+cN+dG+cT+cY+bG+bL",
  "+bNG+bQ+bR+bSH+bT+bY+aE+bC+bNC+cT+cY+bSH+bZ+aI+bQ+aOE+cK+bQeUYGHUR COMBINING DOT ABOVEzBELOW",
  "vTWO DOTS ABOVE+eBELOWlLETTER ALEPHsBETHsFINAL HETHsGIMEL-HETHsKAPHsLAMEDHtESHsMEMsNUNsPEsRESHsSADHE",
  "uMEKHtHINsTAWsWAWsYODHsZAYINlPUNCTUATION BARxFOUR DOTSxTWO BARS+bDOTSdER ADULTgMANgWOMANcIVE",
  "bM SYMBOLbN WITH EXCLAMATION MARK WITH LEFT RIGHT ARROW ABOVEcCOMING AUTOMOBILEjBUSjFIRE ENGINE",
  "jPOLICE CARjTAXIcE BUTTON MOUSEeDOT LEADERiOVER TWO DOTS PUNCTUATIONd-PIECE SWIMSUITcIONbPEN BOOKhX",
  "fCENTRE ASTERISKmBLACK STARmCROSSmTEARDROP-SPOKED ASTERISKfFILE FOLDERgOLDERfHANDS SIGNfLOCK",
  "fMAILBOX WITH LOWERED FLAGsRAISED FLAGfSUBSEThPERSETe-CIRCUIT-OUTPUT H-TYPE SYMBOLuL-TYPE SYMBOL",
  "fOUTLINED RIGHTWARDS ARROWdRATING SYSTEM COMMANDcHIUCHUScPOSITIONcTICAL DISCm ICONeON KEY",
  "bR WITH DOT INSIDEcANGE BOOKhHEARTfUTANcIGINAL OFdYA AI LENGTH MARKhU LENGTH MARKgDIGIT EIGHTmFIVE",
  "nOURmNINEmONEmSEVENnIXmTHREEnWOmZEROgFRACTION ONE EIGHTHtHALFtQUARTERtSIXTEENTHpTHREE QUARTERS",
  "vSIXTEENTHSgISSHARgLETTER AoAoIoUnBAoHAnCAoHAnDAoDApHAoHAnEnGAoHAnHAnIoInJAoHAnKAoHAnLAoLAnMAnNAoGA",
  "oNAoYAnOnPAoHAnRAoHAoRAnSAoHAoSAnTAoHAoTApHAnUoUnVAoOCALIC LwLvRwRnWAnYAoYAgSIGN ANUSVARAmVAGRAHA",
  "lCANDRABINDUlNUKTAlOVERLINElVIRAMAnSARGAgVOWEL SIGN AAsIsUrErIsIrOrUsUrVOCALIC L+aLzR+aR",
  "cNATE LEFT PARENTHESIShRIGHT PARENTHESIScTHODOX CROSSbSAGE CAPITAL LETTER AwHwIxNvBRAvCHAvDHAvEwHCHA",
  "xKAxPAxTAySAwINvGHAvHAwYAvIvKAwHAwYAvLAvMAvNAvOwINvPAvSAwHAvTAwSAxHAvUvWAvZAwHAgSMALL LETTER AuHuIvN",
  "tBRAtCHAtDHAtEuHCHAvKAvPAvTAwSAuINtGHAtHAuYAtItKAuHAuYAtLAtMAtNAtOuINtPAtSAuHAtTAuSAvHAtUtWAtZAuHAcC",
  "cMANYA DIGIT EIGHToFIVEpOURoNINEoONEoSEVENpIXoTHREEpWOoZEROiLETTER AqAqLEFpBApCAYNpDEELqHApEqEpFApGA",
  "pHApIpJApKAAFqHApLAANpMIINpNUUNpOqOpQAAFpRApSAqHIINpTApUpWAWpXApYAbTTER",
  "dOMAN SIYAQ ALTERNATE NUMBER EIGHT+fFIVE+gOUR+j HUNDRED+fNINE+fSEVEN+gIX+i HUNDRED+fTEN+i THOUSAND",
  "+gHREE+gWO+i THOUSANDoFRACTION ONE HALF+bSIXTHoMARRATANoNUMBER EIGHT+a HUNDRED+bTHOUSAND+aY",
  "+b THOUSANDvFIFTY+a THOUSANDxVEz HUNDRED+aTHOUSANDwORTY+a THOUSANDxURz HUNDRED+aTHOUSANDvNINE",
  "z HUNDRED+aTHOUSANDzTY+b THOUSANDvONEy HUNDREDzTHOUSANDvSEVEN+a HUNDRED+bTHOUSAND+aTY+c THOUSANDwIX",
  "y HUNDREDzTHOUSANDyTY+a THOUSANDvTENy THOUSANDwHIRTY+b THOUSANDxREE+a HUNDRED+bTHOUSANDwWENTY",
  "+b THOUSANDxOy HUNDREDzTHOUSANDbUNCE SIGNcTBOX TRAYdLINED BLACK STARjGREEK CROSSjLATIN CROSS",
  "jWHITE STARbVERHEATED FACEeLAPhPING BLACK SQUARESmWHITE AND BLACK SQUARESsSQUARESfINEbWLbXbYSTER"]

def namesP : List String := [
  "aPACKAGEcDdDING CHARACTERcGEe FACING UPfWITH CIRCLED TEXTlURLeReSdODAcHAWH HMONG CLAN SIGN FAJxHAM",
  "zWJxKHAByOOyWMxLAUJyISxMUASxPHABxTHOJySABzHEEJzWBxVAJyWJxXYOOJxYAJyEEGoONSONANT AUxCAUyHAUxHAUyLAU",
  "yNAUxLAUxMAUxNAUyCHAUyKAUyLAUyTHAUzSAUxPLHAUxQHAUxRAUxVAUxXAUxYAUnDIGIT EIGHTtFIVEuOURtNINEtONE",
  "tSEVENuIXtTHREEuWOtZEROnMARK CIM HOMwKESxHAVwSOxUAMwTAUMxUBnNUMBER HUNDRED MILLIONS+bSuMILLIONS",
  "uTEN BILLIONSyTHOUSANDSxSvRILLIONSnSIGN AVsCIM CHEEMxUAM TSHOOJwHAIS LUS NTOG NTOGwNRES TOSwPUB DAWB",
  "wTSOV ROGxXWV+a CHWVsHLItNUBsIB YAMsLOSsMEEJ SUABxTSEEBtUSsNQIGtTUJsTAUtHIRD-STAGE HLItXHEEJ CEEV",
  "sVOS FEEMwLUBwNRUAwSEEVwTHIAByOMxSHAB CEEBsXAUStIABtYEEM FAIByNTXIVyRHOyTOVuOOsZWJ THAJnVOWEL KAABwV",
  "vBvIBwVvUBwVvVvWBwVuEBvEBwVvVuIABwVvBvVuOBvOBwVvVuUABwVvBvVuWBvVcLLASdM BRANCHfDOWN HANDfTREE",
  "fUP HANDeS UP TOGETHEReYRENE LEFT-POINTING FLEURONmTTER ALEPHsYINrBETHrDALETHrFINAL NUNrGIMELrHEtTH",
  "rKAPHrLAMEDHrMEMrNUNrPErQOPHrRESHrSADHEtMEKHsHINrTAWsETHrWAWrYODHrZAYINkNUMBER FIVEsOURrONErTENsHREE",
  "sWENTYtOkRIGHT-POINTING FLEURONcNCAKESdDA FACEcPERCLIPcRACHUTEeGRAPH SEPARATORjOSjUS MARKeLLEL TO",
  "jWITH HORIZONTAL STROKEoTILDE OPERATORdENTHESIZED DIGIT EIGHTuFIVEvOURuNINEuONEuSEVENvIXuTHREEvWO",
  "oHANGUL CHIEUCH+c AwIEUC+a A+bUvHIEUH+a AvIEUNG+a AvKHIEUKH+c AwIYEOK+b AvMIEUM+a AvNIEUN+a A",
  "vPHIEUPH+c AwIEUP+a AvRIEUL+a AvSIOSz AvTHIEUTH+c AwIKEUT+b AoIDEOGRAPH ALLIANCEyCALLzONGRATULATION",
  "yEARTHzIGHTzNTERPRISEyFESTIVALzINANCIAL+aRE+aVEzOURyHAVEyLABORyMETALzOONyNAMEzINEyONEyREACH+aPRESENT",
  "+aSOURCE+bTySELF+aVENzIXzOCIETYzPECIALzTOCK+aUDYzUN+aPERVISEyTENzHREEzWOyWATERzOOD",
  "oKOREAN CHARACTER O HU+gJEONoLATIN CAPITAL LETTER A+jB+jC+jD+jE+jF+jG+jH+jI+jJ+jK+jL+jM+jN+jO+jP+jQ",
  "+jR+jS+jT+jU+jV+jW+jX+jY+jZuSMALL LETTER A+hB+hC+hD+hE+hF+hG+hH+hI+hJ+hK+hL+hM+hN+hO+hP+hQ+hR+hS+hT",
  "+hU+hV+hW+hX+hY+hZoNUMBER EIGHTEENwLEVENvFIFTEENwOURTEENvNINETEENvSEVENTEENwIXTEENvTENwHIRTEENwWELVE",
  "yNTYdROTdT ALTERNATION MARKeIAL DIFFERENTIALiLINE BACKWARDnDOWNnFORWARDnUPhLY-RECYCLED PAPER SYMBOL",
  "eNERSHIP SIGNeY POPPERcSSED SYMBOLfNGER SHIPeIVE-PULL-DOWN-OUTPUT SYMBOLnUP-OUTPUT SYMBOL",
  "ePORT CONTROLcU CIN HAU GLOTTAL STOPy FINALzVARIANTmLETTER AtBAtCAuHAtDAtEtFAuINAL KzLzMzN+aGzPzTzW",
  "zYtGAtHAtIuAtKAuHAtLAtMAtNAuGAtOtPAuHAtRAtSAtTAuHAtUuAtVAtZAnOW-FALLING TONE+c FINAL+dLONG+h FINAL",
  "mMID-LEVEL TONE+a FINAL+bLONG FINALmRISING TONEx FINALyLONG+c FINALmSANDHI GLOTTAL STOP+f FINALtTONE",
  "x FINALyLONG+c FINALcW PRINTSbDFcIbEACE SYMBOLeHeOCKdNUTSdRcDESTRIANcN OVER STAMPED ENVELOPEdCIL",
  "dGUINdSIVE FACEdTAGRAMcOPLE HUGGINGcR MILLE SIGNeSIGNeTEN THOUSAND SIGNdCENT SIGNdFORMING ARTS",
  "dMANENT PAPER SIGNdPENDICULARn WITH SdSEVERING FACEeON BOWING DEEPLYhCLIMBINGhDOING CARTWHEEL",
  "hFROWNINGhIN LOTUS POSITIONkSTEAMY ROOMhRAISING BOTH HANDS IN CELEBRATIONhWITH BALLnLOND HAIRmCROWN",
  "mFOLDED HANDSmHEADSCARFmPOUTING FACEgAL COMPUTERePECTIVEcSETA SIGNdO SIGNcTRI DISH",
  "bHAGS-PA DOUBLE HEAD MARKjLETTER ArLTERNATE YArSPIRATED FAqBAqCAsNDRABINDUrHAqDArDArZAqErEqFAqGArGA",
  "qHAqIqJAqKArHAqLAqMAqNArGArNArYAqOqPArHAqQAqRAqSArHArMALL AqTArHArSAsHArTAsHAqUqVOICED HAvLESS SHA",
  "qWAqXAqYAqZArHAjMARK DOUBLE SHADoSHADjSINGLE HEAD MARKkUBJOINED LETTER RA+aWA+aYAlPERFIXED LETTER RA",
  "dISTOS DISC SIGN ARROWtBEEwHIVEuOOMERANGvWuULLS LEGtCAPTIVEvRPENTRY PLANEvTuHILDuLUBuOLUMNvMB",
  "xINING OBLIQUE STROKEtDOLIUMvVEtEAGLEtFLUTEtGAUNTLETuRATERtHELMETuIDEuORNtLIDvLYtMANACLESvTTOCK",
  "tOX BACKtPAPYRUSuEDESTRIANuLANE TREEvUMED HEADtRAMuOSETTEtSAWuHIELDwPuLINGuMALL AXEuTRAINER",
  "tTATTOOED HEADuIARAuUNNYtVINEtWAVY BANDuOMANcILIPPINE DOUBLE PUNCTUATIONlSINGLE PUNCTUATION",
  "cOENICIAN LETTER AINtLFsBETsDELTsGAMLsHEuTsKAFsLAMDsMEMsNUNsPEsQOFsROSHsSADEtEMKtHINsTAUtETsWAUsYOD",
  "sZAIlNUMBER ONEv HUNDREDsTENtHREEtWENTYuOlWORD SEPARATORdLUSbICKeUP TRUCKcEcGd FACEeNOSEcLCROW SIGN",
  "dE OF POOdLcNATAdCHED FINGERSfING HANDdE DECORATIONeAPPLEdWHEEL STARcSCESdTOLcTCHFORKj WITH TEE TOP",
  "bLACARDeE OF INTEREST SIGNjWORSHIPdNCK CONSTANTp OVER TWO PIdYGROUND SLIDEeING CARD ACE OF CLUBS",
  "uDIAMONDSuHEARTSuSPADESnBACKoLACK JOKERnEIGHT OF CLUBSwDIAMONDSwHEARTSwSPADESnFIVE OF CLUBSvDIAMONDS",
  "vHEARTSvSPADESoOOLpUR OF CLUBSvDIAMONDSvHEARTSvSPADESnJACK OF CLUBSvDIAMONDSvHEARTSvSPADES",
  "nKING OF CLUBSvDIAMONDSvHEARTSvSPADESoNIGHT OF CLUBSxDIAMONDSxHEARTSxSPADESnNINE OF CLUBSvDIAMONDS",
  "vHEARTSvSPADESnQUEEN OF CLUBSwDIAMONDSwHEARTSwSPADESnRED JOKERnSEVEN OF CLUBSwDIAMONDSwHEARTSwSPADES",
  "oIX OF CLUBSuDIAMONDSuHEARTSuSPADESnTEN OF CLUBSuDIAMONDSuHEARTSuSPADESoHREE OF CLUBSwDIAMONDS",
  "wHEARTSwSPADESoRUMP-1u0u1u2u3u4u5u6u7u8u9t2u0u1t3t4t5t6t7t8t9oWO OF CLUBSuDIAMONDSuHEARTSuSPADES",
  "nWHITE JOKERcDcUdNGERdS SIGNj ABOVE EQUALS SIGNkIN LEFT HALF CIRCLEnRIGHT HALF CIRCLEnTRIANGLE",
  "kWITH BLACK TRIANGLEpCIRCUMFLEX ACCENT ABOVEpDOT BELOWpSMALL CIRCLE ABOVEqUBSCRIPT TWOpTILDE ABOVE",
  "vBELOWe-MINUS SIGNdTOf FORM FIVEmOURlTHREEmWObMbOCKET CALCULATORcLICE CARkS REVOLVING LIGHThOFFICER",
  "cODLEcP DIRECTIONAL FORMATTINGqISOLATEdCORNcRTABLE STEREOcSEIDONdITION INDICATORdTAL HORNhMARKl FACE",
  "eBOXcT OF FOODdABLE WATER SYMBOLeTOdTED PLANTcUCHdLTRY LEGdND SIGNdRING LIQUIDdTING CAT FACEiFACE",
  "cWER ON SYMBOLi-OFF SYMBOLgSLEEP SYMBOLhYMBOLbRAYER BEADScECEDESi ABOVE ALMOST EQUAL TOpEQUALS SIGN",
  "pNOT ALMOST EQUAL TOtEQUAL TOpSINGLE-LINE EQUALS SIGN+bNOT EQUAL TOjBUT NOT EQUIVALENT TO",
  "jOR EQUAL TOpIVALENT TOjUNDER RELATIONdGNANT MANjPERSONjWOMANdSCRIPTION TAKE",
  "eENTATION FORM FOR VERTICAL COLON+hMMA+fEM DASH+gN DASH+gXCLAMATION MARK+fHORIZONTAL ELLIPSIS",
  "+fIDEOGRAPHIC COMMA+rFULL STOP+fLEFT ANGLE BRACKET+kBLACK LENTICULAR BRACKET+kCORNER BRACKET",
  "+lURLY BRACKET+kDOUBLE ANGLE BRACKET+kPARENTHESIS+kSQUARE BRACKET+kTORTOISE SHELL BRACKET",
  "+kWHITE CORNER BRACKET+qLENTICULAR BRACKET+gOW LINE+fQUESTION MARK+fRIGHT ANGLE BRACKET",
  "+lBLACK LENTICULAR BRACKET+lCORNER BRACKET+mURLY BRACKET+lDOUBLE ANGLE BRACKET+lPARENTHESIS",
  "+lSQUARE BRACKET+lTORTOISE SHELL BRACKET+lWHITE CORNER BRACKET+rLENTICULAR BRACKET++fKCET+fSEMICOLON",
  "+fTWO DOT LEADER+fWAVY LOW LINEdTZELdVIOUS PAGEcIMEdNCEgSSeT SCREEN SYMBOLfERh ICONdVACY MESSAGE",
  "fTE USE ONEmTWOl-1m2cOBING CANEdHIBITED SIGNdJECTIVEdPERTY LINEeORTIONkAL TOdSERPINA",
  "bSALTER PAHLAVI FOUR DOTS WITH CROSS+fDOTqLETTER ALEPHxBETHxDALETHxGIMELxHEzTHxKAPHxLAMEDHxMEM-QOPH",
  "xNUNxPExSADHEzMEKHyHINxTAWxWAW-AYIN-RESHxYODHxZAYINqNUMBER FOURxONE+a HUNDREDxTENyHREEyWENTYzO",
  "qSECTION MARKqTURNED SECTION MARKbU1c2cBLIC ADDRESS LOUDSPEAKERcNCTUATION SPACEgS ELEVATUS MARK",
  "cRPLE HEARTdSEcSHPINcT LITTER IN ITS PLACE SYMBOL"]

def namesQ : List String := [
  "aQUADRANT LOWER LEFTpRIGHTjUPPER LEFTt AND LOWER LEFT AND LOWER RIGHT+eRIGHT",
  "yUPPER RIGHT AND LOWER LEFT+uRIGHTpRIGHTu AND LOWER LEFT+j AND LOWER RIGHTfUPLE INTEGRAL OPERATOR",
  "kPRIMEdRTER NOTEdTERNION INTEGRAL OPERATORcESTION EXCLAMATION MARKjMARKiED EQUAL TOcINCUNX",
  "cOTATION MARK"]

def namesR : List String := [
  "aRABBITg FACEcCCOONdING CARhMOTORCYCLEcDICAL SYMBOL BOTTOMeOf BUTTONfACTIVE SIGNcILWAY CARiTRACKdN",
  "eBOWdSED BACK OF HANDhCOMMAhDOTkTED INTERPOLATION MARKERhFISThHANDl WITH FINGERS SPLAYED",
  "rPART BETWEEN MIDDLE AND RING FINGERShINTERPOLATION MARKERhMC SIGNiD SIGNiR SIGNhSQUAREcMcTdIOcZOR",
  "bECEIPTdORD SEPARATORdREATIONAL VEHICLEdYCLED PAPER SYMBOLgING SYMBOL FOR GENERIC MATERIALS",
  "vTYPE-1 PLASTICS+a2 PLASTICS+a3 PLASTICS+a4 PLASTICS+a5 PLASTICS+a6 PLASTICS+a7 PLASTICScD APPLE",
  "eGIFT ENVELOPEcFERENCE MARKcGIONAL INDICATOR SYMBOL LETTER A+hB+hC+hD+hE+hF+hG+hH+hI+hJ+hK+hL+hM+hN",
  "+hO+hP+hQ+hR+hS+hT+hU+hV+hW+hX+hY+hZeSTERED SIGNcJANG CONSONANT SIGN HwNxGwRhLETTER AoBAoCAoDAoGAoHA",
  "oJAoKAoLAoMApBAoNApDApGAqGApYAqJAoPAoRAoSAoTAoWAoYAhSECTION MARKhVIRAMAiOWEL SIGN AItUsEtAtUsIsOsU",
  "cLIEVED FACEcMINDER RIBBONcPLACEMENT CHARACTERcSPONSEdTRICTED LEFT ENTRY-1w2fOOMcTURN LEFThRIGHT",
  "hSYMBOLcVERSE CHECKER BOARDiINDEXiLIGHT FOUR POINTED PINWHEEL STARkNE FEEDiSOLIDUSp OPERATOR",
  "qPRECEDING SUBSETqWITH HORIZONTAL STROKEiTILDE OPERATOR ABOVE LEFTWARDS ARROW+dRIGHTWARDS ARROW",
  "hD ANGLEo WITH UNDERBARjCOMMAjDOUBLE PRIMEv QUOTATION MARKqSTROKE NOT SIGNjEMPTY SET",
  "jFORKED PARAGRAPHOSjHAND WITH MIDDLE FINGER EXTENDEDjNOT SIGNjPILCROW SIGNkRIMEjQUESTION MARK",
  "jRAISED HAND WITH FINGERS SPLAYEDkIGHT ANGLEkOTATED FLORAL HEART BULLETjSANS-SERIF CAPITAL L",
  "kEMICOLONjTHUMBS DOWN SIGNqUP SIGNkILDEo EQUALSkRIPLE PRIMEjVICTORY HANDdOLVING HEARTSbHINOCEROSbI",
  "cAL SIGNcBBONg ARROW DOWN LEFTsRIGHTnLEFT DOWNsUPnRIGHT DOWNtUPnUP LEFTqRIGHTcCE BALLfCRACKERcFLE",
  "cGHT AND LOWER ONE EIGHTH BLOCKkUPPER ONE EIGHTH BLOCKiGER BUBBLEjLEl BRACKETt WITH DOT",
  "mDOTTED SUBSTITUTION MARKERmSUBSTITUTION MARKERmVARIANT WITH SQUAREmWITH ARCrDOWNWARDS ZIGZAG ARROW",
  "hRC GREATER-THAN BRACKETiROW WITH CIRCLED PLUSrSMALL CIRCLEgBLACK LENTICULAR BRACKET",
  "mTORTOISE SHELL BRACKETgCEILINGhORNER BRACKEThURLY BRACKETt LOWER HOOKuMIDDLE PIECEuUPPER HOOK",
  "gDOTTED SUBSTITUTION BRACKETiUBLE ANGLE BRACKEToRROW WITH ROUNDED HEADnPARENTHESISnQUOTATION MARK",
  "nWIGGLY FENCEgFISH TAILiVE EIGHTHS BLOCKhLOORgHALF BLACK CIRCLErSTARnOCKlFOLDERlMEDIUM SHADE",
  "lRUNNING MANiND TELEPHONE RECEIVERgLOW PARAPHRASE BRACKETgNORMAL FACTOR SEMIDIRECT PRODUCT",
  "gONE EIGHTH BLOCKkQUARTER BLOCKhPEN SQUARED DOThUTER JOINgPARENTHESISr EXTENSIONsLOWER HOOK",
  "sUPPER HOOKgRAISED OMISSION BRACKETgS-SHAPED BAG DELIMITERhEMIDIRECT PRODUCTiVEN EIGHTHS BLOCK",
  "hIDEWAYS U BRACKETiNGLE QUOTATION MARKhPEAKERn WITH ONE SOUND WAVEtTHREE SOUND WAVESjECH BUBBLE",
  "hQUARE BRACKETu EXTENSIONvLOWER CORNERvUPPER CORNERvWITH DOUBLE STROKE+aQUILL+aSTROKE",
  "+aTICK IN BOTTOM CORNER+iTOP CORNER+aUNDERBARhUBSTITUTION BRACKETgTACK",
  "hHIRD WHITE RIGHT POINTING INDEXiOUGHT BUBBLEiREE EIGHTHS BLOCKmQUARTERS BLOCKhORTOISE SHELL BRACKET",
  "hRANSPOSITION BRACKETiIANGLEo ABOVE LEFT TRIANGLEmULAR ONE QUARTER BLOCKgVERTICAL BAR WITH QUILL",
  "qOX LINEgWHITE CORNER BRACKETnURLY BRACKETmLENTICULAR BRACKETmPARENTHESISmSQUARE BRACKET",
  "mTORTOISE SHELL BRACKEThIGGLY FENCEf-FACING ARMENIAN ETERNITY SIGNnFISTnSVASTI SIGNy WITH DOTS",
  "gHANDED INTERLACED PENTAGRAMgPOINTING ANGLE BRACKETpCURVED ANGLE BRACKETpDOUBLE ANGLE QUOTATION MARK",
  "pMAGNIFYING GLASSgSHADED WHITE RIGHTWARDS ARROWhIDE ARC CLOCKWISE ARROWgTO-LEFT EMBEDDINGoISOLATE",
  "oMARKoOVERRIDEfHAND INTERIOR PRODUCTfWARDS ARROWq ABOVE ALMOST EQUAL TOxREVERSE ALMOST EQUAL TO",
  "+fTILDE OPERATORxSHORT LEFTWARDS ARROWxTILDE OPERATORsND UPPER AND LOWER ONE EIGHTH BLOCKrFROM BAR",
  "z TO BLACK DIAMONDrOVER LEFTWARDS ARROWrTHROUGH GREATER-THANzSUPERSETzXsO BARvLACK DIAMOND",
  "rWITH CORNER DOWNWARDSwDOTTED STEMyUBLE VERTICAL STROKEwEQUILATERAL ARROWHEADwHOOK",
  "wLARGE TRIANGLE ARROWHEADxOOPwMEDIUM TRIANGLE ARROWHEADwNOTCHED TAILwPLUS BELOW",
  "wSMALL EQUILATERAL ARROWHEAD+cTRIANGLE ARROWHEADxTROKEwTAIL+a WITH DOUBLE VERTICAL STROKE",
  "+gVERTICAL STROKExIP DOWNWARDS+aUPWARDSwVERTICAL STROKEq-TAILlBACK-TILTED SHADOWED WHITE ARROW",
  "mLACK ARROWrCIRCLED WHITE ARROWmOTTOM SHADED WHITE ARROWlCOMPRESSED ARROWlDASHED ARROWmOUBLE ARROW",
  "x FROM BARyWITH STROKE+dVERTICAL STROKEx-TAILsDASH ARROWlFINGER-POST ARROW",
  "mRONT-TILTED SHADOWED WHITE ARROWlHANDnRPOON OVER LEFTWARDS HARPOON",
  "tWITH BARB DOWN ABOVE LEFTWARDS HARPOON WITH BARB DOWN+iBELOW LONG DASH+iFROM BAR+iTO BAR+hWARDS",
  "+dUP ABOVE LEFTWARDS HARPOON WITH BARB UP+nONG DASH+mRIGHTWARDS HARPOON WITH BARB DOWN+gFROM BAR",
  "+gTO BAR+fWARDSmEAVY ARROWrCOMPRESSED ARROWlLEFT-SHADED WHITE ARROWlOPEN-HEADED ARROWlPAIRED ARROWS",
  "lQUADRUPLE ARROWlRIGHT-SHADED WHITE ARROWmOCKETlSANS-SERIF ARROWmQUARED ARROWoIGGLE ARROW",
  "lTOP SHADED WHITE ARROWmRIANGLE ARROWHEADt-HEADED ARROW+g OVER LEFTWARDS TRIANGLE-HEADED ARROW",
  "+hTO BAR+hWITH BOLD SHAFT+mDOUBLE HORIZONTAL STROKE+tVERTICAL STROKE+mHEAVY SHAFT",
  "+mLONG TIP DOWNWARDS+vUPWARDS+mMEDIUM SHAFT+mNARROW SHAFT+mVERY HEAVY SHAFT+bDASHED ARROW",
  "+bPAIRED ARROWSoPLE ARROWsDASH ARROWmWO HEADED ARROWo-HEADED ARROW FROM BAR",
  "+cWITH DOUBLE VERTICAL STROKE+hTAIL+l WITH DOUBLE VERTICAL STROKE+rVERTICAL STROKE",
  "+iRIANGLE ARROWHEADS+hVERTICAL STROKEwTRIPLE DASH ARROWlWAVE ARROWmHITE ARROWw FROM WALL",
  "xWITHIN TRIANGLE ARROWHEADcNGe ABOVEfBUOYfEQUAL TOfIN EQUAL TOfOPERATORfPOINTeED PLANETeING BELL",
  "cSING DIAGONAL CROSSING FALLING DIAGONALzSOUTH EAST ARROWbLEcIcMcObOASTED SWEET POTATOcBOT FACEcCK",
  "eETcLL OF PAPEReED-UP NEWSPAPERfR COASTERhSKATEeING ON THE FLOOR LAUGHINGcMAN AS SIGNgCENTURIAL SIGN",
  "gDENARIUS SIGNhIMIDIA SEXTULA SIGNhUPONDIUS SIGNgNUMERAL EIGHTpLEVENoFIFTYt EARLY FORMuTHOUSANDqVE",
  "s HUNDREDtTHOUSANDpOURoNINEoONEr HUNDREDz THOUSANDsTHOUSAND+a C DoREVERSED ONE HUNDREDoSEVENpIX",
  "r LATE FORMoTENr THOUSANDpHREEpWELVEqOgQUINARIUS SIGNgSEMUNCIA SIGNiSTERTIUS SIGNiXTANS SIGN",
  "kULA SIGNhILIQUA SIGNgUNCIA SIGNcOSTERcSEeTTEcTATED CAPITAL QiFLORAL HEART BULLET",
  "iHEAVY BLACK HEART BULLETiLIGHT FOUR POINTED BLACK CUSPiWHITE FOUR POINTED CUSPcUND PUSHPINgTARGET",
  "fED SYMBOL FOR CAItFUtLUtSHOUvUANGXItXIcWBOATbSbUBLE SIGNcGBY FOOTBALLcLE-DELAYEDcMI DIGIT EIGHT",
  "lFIVEmOURlNINElONElSEVENmIXlTHREEmWOfFRACTION ONE HALFsQUARTERsTHIRDoTWO THIRDSfNUMBER EIGHT HUNDRED",
  "rYmFIFTYoVE HUNDREDnORTYoUR HUNDREDmNINE HUNDREDqTYmONE HUNDREDmSEVEN HUNDREDrTYnIX HUNDREDpTYmTEN",
  "nHIRTYoREE HUNDREDnWENTYoO HUNDREDcNIC ARLAUG SYMBOLgBELGTHOR SYMBOLgCROSS PUNCTUATIONgLETTER AC A",
  "oESCoLGIZ EOLHXoNSUZ AnBERKANAN BEORC BJARKAN BnCoALCoEALCpNoWEORTHnDoAGAZ DAEG DoOTTED-LuNuPnEoAR",
  "oHWAZ EH EoNGoTHnFEHU FEOH FE FoRANKS CASKET AC+cESC+bEH+bIS+bOSnGoARoEBO GYFU GpRnHAEGL HpGLAZ H",
  "nICELANDIC-YRoNGqWAZoORoSAZ IS ISS IoWAZ EOHnJERAN JnKoAUN KrAnLAUKAZ LAGU LOGR LoONG-BRANCH-AR AE",
  "zHAGALL HzMADR MzOSS OzYRnMANNAZ MAN MnNAUDIZ NYD NAUD NnOoEoNoOoPEN-PoS OoTHALAN ETHEL O",
  "nPERTHO PEORTH PnQnRAIDO RAD REID RnSHpORT-TWIG-AR AyBJARKAN ByHAGALL HyMADR MyNAUD NyOSS OySOL S",
  "yTYR TyYRoIGEL LONG-BRANCH-SOL SoOWILO SoTANnTHURISAZ THURS THORNoIWAZ TIR TYR TnURUZ UR UnVnW",
  "oUNJO WYNN WnXnYoRnZgMULTIPLE PUNCTUATIONgSINGLE PUNCTUATIONgTVIMADUR SYMBOLdNEReING SHIRT WITH SASH",
  "cPEE SIGNcSSIAN ASTROLOGICAL SYMBOL BINOVILE+cNOVILE+cQUINTILE+cSENTAGON+cTREDECILE+cVIGINTILE"]

end TreeLint.Text.CharacterName
