/-
  TreeLint/Text/CharacterName/CToG.lean
  =====================================
  **Names of characters that begin with C to G.**  The tables are those of Unicode 14.
-/

namespace TreeLint.Text.CharacterName

def namesC : List String := [
  "aCACTUScDA UNAdUCEUScLENDARdL ME HANDcMERAg WITH FLASHdPINGcNdADIAN SYLLABICS AuAvIvYuIvVILIK BuN",
  "uTHAPASCAN M+eSuYtBEAVER DENE L+fRuIBLE-CREE YuLACKFOOT A+dE+dI+dKA+eE+eI+eO+dNA+eE+eI+eO+dO+dS+dW",
  "+eA+eE+eI+eOtCuAvAwIvRRIER CHA+dE+eE+dI+dO+dU+bDEE+dNE GEE+eTAL S+cI+cLA+dE+eE+dI+dO+dU+cZA+dE+eE+dI",
  "+dO+dU+bEE+bGA+dA+cE+dE+cHA+dE+eE+dI+dO+dU+cI+cO+cU+cWA+dU+bH+cEE+cI+cWA+dE+eE+dI+dO+dU+bI+cNITIAL Z",
  "+bJA+cE+dE+cI+cJA+dE+eE+dI+dO+dU+cO+cU+cWA+bKHA+dE+eE+dI+dO+dU+cK+dA+dE+eE+dI+dO+dU+bLA+cE+dE+cHA+dE",
  "+eE+dI+dO+dU+cI+cO+cU+bMA+cE+dE+cI+cO+cU+bNA+cE+dE+cG+cI+cO+cU+bP+cA+cE+dE+cI+cO+cU+bRA+cE+dE+cI+cO",
  "+cU+bSA+cE+dE+cH+dA+dE+eE+dI+dO+dU+cI+cO+cU+bTHA+dE+eE+dI+dO+dU+cLA+dE+eE+dHA+eE+fE+eI+eO+eU+dI+dO",
  "+dU+cSA+dE+eE+dI+dO+dU+cTA+dE+eE+dI+dO+dSA+eE+fE+eI+eO+eU+dU+bWA+cE+dE+cI+cO+cU+bYA+cE+dE+cI+cO+cU",
  "+bZ+cA+cE+dE+cI+cO+cUuEuHI SIGNuIvIuOvOuWAwAvEvIwIvOwOtEuASTERN WuNtFuAvAwIuEuIvIvNAL ACUTE",
  "zBOTTOM HALF RINGzDOUBLE ACUTE+gSHORT VERTICAL STROKES+bWN TACKzGRAVEzMIDDLE DOTzPLUSzRAISED DOT",
  "+aIGHT HALF RING+bNGzSHORT HORIZONTAL STROKE+aMALL RINGzTOP HALF RINGuOvOuULL STOPuWAAtGLOTTAL STOP",
  "tHKuYPHENtIuIuNtKuAvAwIvYuEuIvIuOvOuWvAwAwYvEvIwIvOwOtLuAvAwIvYuEuHvAwAvIwIvOwOuIvIuOvOuWAwAvEvIwIvO",
  "wOtMuAvAwIvYuEvDIAL L+aRuHuIvIuOvOwSE-CREE SKuWAwAvEvIwIvOwOtNu-CREE THE+cI+dIuAvAwIvSKAPI CWAA",
  "+bKWAA+bMWAA+bNWAA+bS-W+cCWA+cKW+eA+cPWA+cTWA+cWAA+bTWAA+bWAA+cOO+bYWAAvTTILIK HA+eA+dI+eI+dO+eO",
  "+cSHRA+gA+fI+gI+fO+gOvYuEuGvAwAxIwIvIwIvOwOuHuIvIuNGwAxAwIxIwOxOuOvOvYuUNAVIK H+cA+dA+cE+cI+dI+cO+dO",
  "yUT HuWAwAvEvIwIvOwOtOuJIBWAY C+bK+bM+bN+cWI+eI+dO+eO+bP+bS+cH+bTuNuOuYtPuAvAwIvYuEuIvIuOvOvYuWAwAvE",
  "vIwIvOwOwYtQuAvAwIvIuIvIuOvOtRu-CREE RE+bWEuAvAwIvYuEuIvIuOvOuWAwAvEEvIwIvOwOtSuAvAwIvYwISI HA+bE+bI",
  "+bO+cO+aJI+bU+cU+aM+aSHA+cE+cI+cO+dO+cWE+aTH+aYIuEuHvAwAwYvEvIwIvOwOwYvWAxAwEwIxIwOxOxYuIvIuOvO",
  "vUTH-SLAVEY KAH+hEH+hIH+hOHvYuPAvEvIvOuWvAwAvEvIwIvOwOtTuAvAwIvYuEuHv-CREE TH+dA+eA+dE+dI+eI+dO+eOvA",
  "wAvEvIwIvOwOvWAxAwEuIvIuLHAwEwIwOxOwWEuOvOuTAvEvHwAxAwEwIwOxOwWEvIvOuWAwAvEvIwIvOwOuYAvEvIvOtWAvAvY",
  "uEvST-CREE CWA+gA+fE+fI+gI+fO+gO+dFWAA+dKWA+gA+fE+fI+gI+fO+gO+dL+eA+fA+eE+eO+fO+eWA+gA+fE+fI+gI+fO",
  "+gO+dM+eWA+gA+fE+fI+gI+fO+gO+dNWA+gA+fE+dP+eWA+gA+fE+fI+gI+fO+gO+dR+eA+eE+eI+eO+eWAA+dSHWA+hA+gE+gI",
  "+hI+gO+hO+eWA+gA+fE+fI+gI+fO+gO+dTHWAA+eWA+gA+fE+fI+gI+fO+gO+dWA+fA+eE+eI+fI+eO+fO+dY+eWA+gA+fE+fI",
  "+gI+fO+gOxERN WuIvIuOvOwDS-CREE FINAL TH+eTH+gA+gE+gI+gO+gWA+iA+hEE+hI+iI+hO+iOtYu-CREE COO+aKOO",
  "+aLOO+aMOO+aNOO+aOO+aPOO+bWAA+aSOO+aTOO+aW+aYOOuAvAwIvYuEuIvIuOvOvYuWAwAvEvIwIvOwOdCELg CHARACTER",
  "hTAGgLATION XfRdDLEeYdNED FOODdOEcPITULUMdRICORNcR SLIDINGdD FILE BOXfINDEXk DIVIDERSdE OFeT",
  "f INSERTION POINTdIAN LETTER Ap2oBoC-18q39oDp2oEp2oGp2oIpIoKp2oLpDq2oMpBq2q3q4oNpDpGpNoOoPp2oQoRpRoS",
  "pHq2pSpTq2oTpTq2oUpUqUr2r3rUoXdONeUSEL HORSEdP STREAMEReENTRY SAWdRIAGE RETURNeOTcSTLEcTd FACE",
  "i WITH TEARS OF JOYoWRY SMILEcUCASIAN ALBANIAN CITATION MARKtLETTER ALT+bOR+aBET+aCAR+cYN+bHA+dT+cI",
  "+cOY+bYAW+dY+aDAT+bYAN+bZAY+cYAY+aEB+bYN+aFAM+aGHEYS+bIM+aHEYT+aINYA+bRB+bWN+aJAYN+bHOX+aKAR+bIW",
  "+aLAN+bYIT+aMAQ+aNOWC+aON+aPEN+bIWR+aQAR+cY+aRAT+aSEYK+bHA+dK+cOY+aTAS+bIWR+bYAY+aVEYZ+aXEYN+aYAYD",
  "+bOWD+aZARL+bHA+cILdTION SIGNbCHbEDI SIGNeLLAcLTIC CROSScNT SIGNeRE LINE SYMBOLgLINE LOW LINE",
  "lOVERLINEcRESbGJbHAINSeRdKMA AU MARKhDANDAiIGIT EIGHTnFIVEoOURnNINEnONEnSEVENoIXnTHREEoWOnZERO",
  "iOUBLE DANDAhLETTER AAoBAApHAAoCAApHAAoDAApDAAqHAApHAAoEoGAApHAAoHAAoIoJAApHAAoKAApHAAoLAApHAAoMAA",
  "oNAApGAApNAApYAAoPAApHAAoRAAoSAAoTAApHAApTAAqHAAoUoVAAoWAAoYAApYAAhMAAYYAAhO MARKhQUESTION MARK",
  "hSECTION MARKiIGN ANUSVARAmCANDRABINDUmVISARGAhVIRAMAiOWEL SIGN AtAtItUsEtIsItIsOtIsUtU",
  "dM CONSONANT SIGN FINAL H+aM+aNGuLAuRAuWAuYAfDIGIT EIGHTlFIVEmOURlNINElONElSEVENmIXlTHREEmWOlZERO",
  "fLETTER AnImBAnBAnHAmCHAoHAmDAnDAnHAmEmFINAL CHsGsKsLsNtGsPsRsSSsTsYmGAnHAmHAmImJAnHAmKAnHAmLAmMAnUE",
  "mNAnGAoUEnHAoJAoUEnUEmOmPAnHAnPAmRAmSAnSAmTAnHAmUmVAmYAfPUNCTUATION DANDAsOUBLE DANDArSPIRAL",
  "rTRIPLE DANDAfVOWEL SIGN AArIrUqEIqIrIqOrEqUrEdRACTER TABULATIONu SETvWITH JUSTIFICATIONlIE",
  "eT WITH DOWNWARDS TRENDlUPWARDS TRENDy AND YEN SIGNcECK MARKfER BOARDn FILLdERING MEGAPHONEeSE WEDGE",
  "dQUERED FLAGdROKEE LETTER AqDArErIrLArOrUrVqEqGArErIrOrUrVqHArErIrNArOrUrVqIqKAqLArErIrOrUrVqMArErI",
  "rOrUrVqNAsHrErIrOrUrVqOqQUAsEsIsOsUsVqSrArErIrOrUrVqTArErIrLAsEsIsOsUsVrSAsEsIsOsUsVqUqVqWArErIrOrU",
  "rVqYArErIrOrUrVjSMALL LETTER AwDAxExIxLAxOxUxVwEwGAxExIxOxUxVwHAxExIxNAxOxUxVwIwKAwLAxExIxOxUxVwMAxE",
  "xIxOxUxVwNAyHxExIxOxUxVwOwQUAyEyIyOyUyVwSxAxExIxOxUxVwTAxExIxLAyEyIyOyUyVxSAyEyIyOyUyVwUwVwWAxExIxO",
  "xUxVwYAxExIxOxUxVeRIESfY BLOSSOMdSTNUTcI RHOdCKENdLDfREN CROSSINGdPMUNKdRONcOCOLATE BARdPSTICKS",
  "dRASMIAN LETTER ALEPHtYINsBETHsCURLED WAWsDALETHsGIMELsHEuTHsKAPHsLAMEDHsMEMsNUNsPEsRESHsSAMEKHtHIN",
  "tMALL ALEPHsTAWsWAWsYODHsZAYINlNUMBER FOURsONEv HUNDREDsTENtHREEtWENTYuOcRISTMAS TREEcURCHbINEMA",
  "cRCLE DIVIDED BY HORIZONTAL BAR AND TOP HALF DIVIDED BY VERTICAL BAR",
  "hWITH ALL BUT UPPER LEFT QUADRANT BLACKmHORIZONTAL BARmLEFT HALF BLACKnOWER HALF BLACK",
  "mRIGHT HALF BLACKmSMALL CIRCLE TO THE RIGHTnUPERIMPOSED XmTWO HORIZONTAL STROKES TO THE RIGHT",
  "mUPPER HALF BLACKsRIGHT QUADRANT BLACKmVERTICAL FILLgD ANTICLOCKWISE ARROWv-ROTATED DIVISION SIGN",
  "jSTERISK OPERATORiBOLD XjULLETiC WITH OVERLAID BACKSLASHjCjDjROSS FORMEEu WITH FOUR DOTS+aTWO DOTS",
  "oPOMMEEnING LANESiDASHjIGIT EIGHToFIVEpOURoNINEoONEoSEVENpIXoTHREEpWOoZEROkVISION SIGNsLASH",
  "jOLLAR SIGN WITH OVERLAID BACKSLASHkT OPERATORiEQUALSiGREATER-THANiHANGUL CHIEUCHw AqIEUCu ApHIEUH",
  "u ApIEUNGu AvUpKHIEUKHw AqIYEOKv ApMIEUMu ApNIEUNu ApPHIEUPHw AqIEUPu ApRIEULu ApSIOSt ApTHIEUTHw A",
  "qIKEUTv AjEAVY WHITE RIGHTWARDS ARROWjORIZONTAL BAR WITH NOTCHjUMAN FIGUREiIDEOGRAPH ACCEPTtDVANTAGE",
  "tLLIANCEtTTENTIONsCENTREtONGRATULATIONuPYuRRECTsEARTHtIGHTtNTERPRISEtXCELLENTsFEMALEtINANCIALuREuVE",
  "tOURsHAVEtIGHsITEMsKINDERGARTENtOTOsLABORtEFTtOWsMALEtEDICINEuTALtOONsNAMEtIGHTuNEsONEsPRINT",
  "sQUESTIONsRELIGIONuSOURCEvTtIGHTsSCHOOLtECRETuVENtIXtOCIETYtPECIALtTOCKuUDYtUITABLEuNuPERVISEsTEN",
  "tHREEtWOsWATERtOODjNFORMATION SOURCEjTALIC LATIN CAPITAL LETTER C+kRiKATAKANA ArErHAsEsIsOsUrIrKAsE",
  "sIsOsUrMAsEsIsOsUrNAsEsIsOsUrOrRAsEsIsOsUrSAsEsIsOsUrTAsEsIsOsUrUrWAsEsIsOrYAsOsU",
  "jOREAN CHARACTER CHAMKOzJUEUIiLATIN CAPITAL LETTER A+dB+dC+dD+dE+dF+dG+dH+dI+dJ+dK+dL+dM+dN+dO+dP+dQ",
  "+dR+dS+dT+dU+dV+dW+dX+dY+dZoSMALL LETTER A+bB+bC+bD+bE+bF+bG+bH+bI+bJ+bK+bL+bM+bN+bO+bP+bQ+bR+bS+bT",
  "+bU+bV+bW+bX+bY+bZjESS-THANiMINUSjULTIPLICATION SIGN WITH CIRCUMFLEX ACCENTiNUMBER EIGHTEEN",
  "uY ON BLACK SQUAREqLEVENpFIFTEENtYu ON BLACK SQUAREqORTYu EIGHTvFIVEwOURvNINEvON BLACK SQUARExE",
  "vSEVENwIXvTHREEwWOrURTEENpNINETEENpSEVENTEENvY ON BLACK SQUAREqIXTEENtY ON BLACK SQUAREpTEN",
  "s ON BLACK SQUAREqHIRTEENuYv EIGHTwFIVExOURwNINEwON BLACK SQUAREyEwSEVENxIXwTHREExWOqWELVEsNTY",
  "v EIGHTwFIVExOURwNINEwON BLACK SQUAREyEwSEVENxIXwTHREExWOiOPEN CENTRE EIGHT POINTED STARiPARALLEL",
  "jERPENDICULARjLUSjOSTAL MARKiREVERSE SOLIDUSjING OPERATORiSQUAREiTIMESjRIANGLEq DOWNiVERTICAL BAR",
  "iWHITE BULLEToSTARjZiXiZERO WITH SLASHeULATION FUNCTIONfMFLEX ACCENTfS TENTcTYSCAPEj AT DUSK",
  "bJK COMPATIBILITY IDEOGRAPH-2F800+g1+g2+g3+g4+g5+g6+g7+g8+g9+gA+gB+gC+gD+gE+gF+f10+g1+g2+g3+g4+g5+g6",
  "+g7+g8+g9+gA+gB+gC+gD+gE+gF+f20+g1+g2+g3+g4+g5+g6+g7+g8+g9+gA+gB+gC+gD+gE+gF+f30+g1+g2+g3+g4+g5+g6",
  "+g7+g8+g9+gA+gB+gC+gD+gE+gF+f40+g1+g2+g3+g4+g5+g6+g7+g8+g9+gA+gB+gC+gD+gE+gF+f50+g1+g2+g3+g4+g5+g6",
  "+g7+g8+g9+gA+gB+gC+gD+gE+gF+f60+g1+g2+g3+g4+g5+g6+g7+g8+g9+gA+gB+gC+gD+gE+gF+f70+g1+g2+g3+g4+g5+g6",
  "+g7+g8+g9+gA+gB+gC+gD+gE+gF+f80+g1+g2+g3+g4+g5+g6+g7+g8+g9+gA+gB+gC+gD+gE+gF+f90+g1+g2+g3+g4+g5+g6",
  "+g7+g8+g9+gA+gB+gC+gD+gE+gF+fA0+g1+g2+g3+g4+g5+g6+g7+g8+g9+gA+gB+gC+gD+gE+gF+fB0+g1+g2+g3+g4+g5+g6",
  "+g7+g8+g9+gA+gB+gC+gD+gE+gF+fC0+g1+g2+g3+g4+g5+g6+g7+g8+g9+gA+gB+gC+gD+gE+gF+fD0+g1+g2+g3+g4+g5+g6",
  "+g7+g8+g9+gA+gB+gC+gD+gE+gF+fE0+g1+g2+g3+g4+g5+g6+g7+g8+g9+gA+gB+gC+gD+gE+gF+fF0+g1+g2+g3+g4+g5+g6",
  "+g7+g8+g9+gA+gB+gC+gD+gE+gF+e900+g1+g2+g3+g4+g5+g6+g7+g8+g9+gA+gB+gC+gD+gE+gF+f10+g1+g2+g3+g4+g5+g6",
  "+g7+g8+g9+gA+gB+gC+gD+gE+gF+f20+g1+g2+g3+g4+g5+g6+g7+g8+g9+gA+gB+gC+gD+gE+gF+f30+g1+g2+g3+g4+g5+g6",
  "+g7+g8+g9+gA+gB+gC+gD+gE+gF+f40+g1+g2+g3+g4+g5+g6+g7+g8+g9+gA+gB+gC+gD+gE+gF+f50+g1+g2+g3+g4+g5+g6",
  "+g7+g8+g9+gA+gB+gC+gD+gE+gF+f60+g1+g2+g3+g4+g5+g6+g7+g8+g9+gA+gB+gC+gD+gE+gF+f70+g1+g2+g3+g4+g5+g6",
  "+g7+g8+g9+gA+gB+gC+gD+gE+gF+f80+g1+g2+g3+g4+g5+g6+g7+g8+g9+gA+gB+gC+gD+gE+gF+f90+g1+g2+g3+g4+g5+g6",
  "+g7+g8+g9+gA+gB+gC+gD+gE+gF+fA0+g1+g2+g3+g4+g5+g6+g7+g8+g9+gA+gB+gC+gD+gE+gF+fB0+g1+g2+g3+g4+g5+g6",
  "+g7+g8+g9+gA+gB+gC+gD+gE+gF+fC0+g1+g2+g3+g4+g5+g6+g7+g8+g9+gA+gB+gC+gD+gE+gF+fD0+g1+g2+g3+g4+g5+g6",
  "+g7+g8+g9+gA+gB+gC+gD+gE+gF+fE0+g1+g2+g3+g4+g5+g6+g7+g8+g9+gA+gB+gC+gD+gE+gF+fF0+g1+g2+g3+g4+g5+g6",
  "+g7+g8+g9+gA+gB+gC+gD+gE+gF+eA00+g1+g2+g3+g4+g5+g6+g7+g8+g9+gA+gB+gC+gD+gE+gF+f10+g1+g2+g3+g4+g5+g6",
  "+g7+g8+g9+gA+gB+gC+gD+cF900+f1+f2+f3+f4+f5+f6+f7+f8+f9+fA+fB+fC+fD+fE+fF+e10+f1+f2+f3+f4+f5+f6+f7+f8",
  "+f9+fA+fB+fC+fD+fE+fF+e20+f1+f2+f3+f4+f5+f6+f7+f8+f9+fA+fB+fC+fD+fE+fF+e30+f1+f2+f3+f4+f5+f6+f7+f8",
  "+f9+fA+fB+fC+fD+fE+fF+e40+f1+f2+f3+f4+f5+f6+f7+f8+f9+fA+fB+fC+fD+fE+fF+e50+f1+f2+f3+f4+f5+f6+f7+f8",
  "+f9+fA+fB+fC+fD+fE+fF+e60+f1+f2+f3+f4+f5+f6+f7+f8+f9+fA+fB+fC+fD+fE+fF+e70+f1+f2+f3+f4+f5+f6+f7+f8",
  "+f9+fA+fB+fC+fD+fE+fF+e80+f1+f2+f3+f4+f5+f6+f7+f8+f9+fA+fB+fC+fD+fE+fF+e90+f1+f2+f3+f4+f5+f6+f7+f8",
  "+f9+fA+fB+fC+fD+fE+fF+eA0+f1+f2+f3+f4+f5+f6+f7+f8+f9+fA+fB+fC+fD+fE+fF+eB0+f1+f2+f3+f4+f5+f6+f7+f8",
  "+f9+fA+fB+fC+fD+fE+fF+eC0+f1+f2+f3+f4+f5+f6+f7+f8+f9+fA+fB+fC+fD+fE+fF+eD0+f1+f2+f3+f4+f5+f6+f7+f8",
  "+f9+fA+fB+fC+fD+fE+fF+eE0+f1+f2+f3+f4+f5+f6+f7+f8+f9+fA+fB+fC+fD+fE+fF+eF0+f1+f2+f3+f4+f5+f6+f7+f8",
  "+f9+fA+fB+fC+fD+fE+fF+dA00+f1+f2+f3+f4+f5+f6+f7+f8+f9+fA+fB+fC+fD+fE+fF+e10+f1+f2+f3+f4+f5+f6+f7+f8",
  "+f9+fA+fB+fC+fD+fE+fF+e20+f1+f2+f3+f4+f5+f6+f7+f8+f9+fA+fB+fC+fD+fE+fF+e30+f1+f2+f3+f4+f5+f6+f7+f8",
  "+f9+fA+fB+fC+fD+fE+fF+e40+f1+f2+f3+f4+f5+f6+f7+f8+f9+fA+fB+fC+fD+fE+fF+e50+f1+f2+f3+f4+f5+f6+f7+f8",
  "+f9+fA+fB+fC+fD+fE+fF+e60+f1+f2+f3+f4+f5+f6+f7+f8+f9+fA+fB+fC+fD+e70+f1+f2+f3+f4+f5+f6+f7+f8+f9+fA",
  "+fB+fC+fD+fE+fF+e80+f1+f2+f3+f4+f5+f6+f7+f8+f9+fA+fB+fC+fD+fE+fF+e90+f1+f2+f3+f4+f5+f6+f7+f8+f9+fA",
  "+fB+fC+fD+fE+fF+eA0+f1+f2+f3+f4+f5+f6+f7+f8+f9+fA+fB+fC+fD+fE+fF+eB0+f1+f2+f3+f4+f5+f6+f7+f8+f9+fA",
  "+fB+fC+fD+fE+fF+eC0+f1+f2+f3+f4+f5+f6+f7+f8+f9+fA+fB+fC+fD+fE+fF+eD0+f1+f2+f3+f4+f5+f6+f7+f8+f9",
  "eRADICAL BAMBOOnLUEnOLT OF CLOTHoNEoXnRUSH ONEsTWOmC-SIMPLIFIED BIRDzCARTzDRAGONzEAT+aVENzFISH+aLY",
  "+aROGzGATE+aOLDzHORSEzLEAF+aONGzSALT+aEE+aHELL+aILK+aPEECHzTANNED LEATHER+aOOTH+aURTLEzWINDnHOKEnITY",
  "oVILIANnLIFFoOTHESnOWmDEATHnIVINATIONnOGmEAT ONEqTHREErWOnWEnYEmFIREnOOTmGHOSTnRASS ONEsTHREEtWO",
  "mHANDnEADpRT ONEsTWOnORNmJ-SIMPLIFIED DRAGONzEVENzTOOTH+aURTLEnADEmKNIFE ONEsTWOmLAME FOURrONErTHREE",
  "sWOnONG ONErTWOmMEAToSHnOONoRTARoTHERoUND ONEsTWOmNET FOURqONEqTHREErWOmOLDmPAW ONEqTWOnERSONmRAINoM",
  "oPnEPEATmSEALoCOND ONEtTHREEuWOnHEEPnILKoMPLIFIED HALF TREE TRUNKyORNxWALKyHEATxYELLOWnMALL ONEsTWO",
  "nNAKEoOUT ONEsTWOnPIRIT ONEtTWOnUNmTABLEnHREADnIGERnURTLEmWALK ONErTWOoTER ONEsTWOnEST ONErTWO",
  "eSTROKE BXGlDlHmGmPnWGmXWGmZnGnTnWoGnZoPoZpGlNlPmDmGmZlQlSmGmPmTmWnGnZmZnWGnZlTmNlWGlXG",
  "bLAMSHELL MOBILE PHONEdPPER BOARDfING HANDS SIGNdSSICAL BUILDINGcEAR SCREEN SYMBOLcINKING BEER MUGS",
  "jGLASSESdPBOARDcOCK FACE EIGHT OCLOCKq-THIRTYmLEVEN OCLOCKr-THIRTYlFIVE OCLOCKp-THIRTYmOUR OCLOCK",
  "p-THIRTYlNINE OCLOCKp-THIRTYlONE OCLOCKo-THIRTYlSEVEN OCLOCKq-THIRTYmIX OCLOCKo-THIRTYlTEN OCLOCK",
  "o-THIRTYmHREE OCLOCKq-THIRTYmWELVE OCLOCKr-THIRTYnO OCLOCKo-THIRTYfWISE CLOSED CIRCLE ARROW",
  "lONTOUR INTEGRALkDOWNWARDS AND UPWARDS OPEN CIRCLE ARROWSkGAPPED CIRCLE ARROWkINTEGRAL",
  "kOPEN CIRCLE ARROWkRIGHT AND LEFT SEMICIRCLE ARROWSpWARDS AND LEFTWARDS OPEN CIRCLE ARROWS",
  "++b WITH CIRCLED ONE OVERLAYkTOP SEMICIRCLE ARROWlRIANGLE-HEADED OPEN CIRCLE ARROWdSE UPfD BOOK",
  "hINTERSECTION WITH SERIFShLOCK WITH KEYhMAILBOX WITH LOWERED FLAGuRAISED FLAGhSUBSETn OR EQUAL TO",
  "jPERSETp OR EQUAL TOhUMBRELLAiNION WITH SERIFSy AND SMASH PRODUCTdUDf WITH LIGHTNINGlRAINlSNOW",
  "lTORNADOdWN FACEbOATcCKROACHeTAIL GLASSdONUTcFFINcINcLLISION SYMBOLdONf EQUALSgSIGN",
  "cMBINING ACUTE ACCENTw BELOWqTONE MARKp-GRAVE-ACUTEqMACRONlLMOST EQUAL TO ABOVE+aBELOWlNNUITY SYMBOL",
  "mTICLOCKWISE ARROW ABOVEyRING OVERLAYlSTERISK ABOVEtBELOWkBINDU BELOWlREVEp BELOWp-MACRONmIDGE ABOVE",
  "rBELOWkCANDRABINDUmRONp BELOWlEDILLAlIRCUMFLEX ACCENT+b BELOWlLOCKWISE ARROW ABOVEuRING OVERLAY",
  "lOMMA ABOVEv RIGHTqBELOWmNJOINING MACRON+b BELOWlYRILLIC DASIA PNEUMATAtHUNDRED MILLIONS SIGN",
  "+bTHOUSANDS SIGNtKAVYKAtLETTER A+aBE+bIG YUS+aCHE+aDE+bJERV+aEF+bL+bM+bN+bR+bS+c-TE+aFITA+aGHE+aHA",
  "+cRD SIGN+aI+bE+bOTIFIED A+jBIG YUS+jE+aKA+aLITTLE YUS+aMONOGRAPH UK+aO+bMEGA+aPE+aSHA+cCHA",
  "+bOFT SIGN+aTE+bSE+aU+bKRAINIAN IE+aVE+aYAT+bERU+bI+bU+aZE+bHEtMILLIONS SIGNtPALATALIZATIONvYEROK",
  "uOKRYTIEuSILI PNEUMATAtTEN MILLIONS SIGNuHOUSAND MILLIONS SIGNuITLOy LEFT HALFzRIGHT HALFtVZMET",
  "kDELETION MARKmVANAGARI DIGIT EIGHT+bFIVE+cOUR+bNINE+bONE+bSEVEN+cIX+bTHREE+cWO+bZEROvLETTER A+cKA",
  "+cNA+cPA+cRA+cU+cVIvSIGN AVAGRAHAlIAERESISt BELOWt-RINGlOT ABOVEt LEFTuRIGHToBELOWt LEFT",
  "nTED ACUTE ACCENTrGRAVE ACCENTmUBLE ACUTE ACCENTrBREVEw BELOWrCIRCUMFLEX ABOVErGRAVE ACCENT",
  "rINVERTED BREVE+f BELOWrLOW LINErMACRONx BELOWrOPEN MARK BELOWsVERLINErPARENTHESES ABOVE",
  "sLUS SIGN ABOVE+bBELOWrRIGHTWARDS ARROW BELOWtNG BELOWrTILDEw LEFT HALFxRIGHT HALF",
  "rVERTICAL LINE ABOVE+fBELOW+aSTROKE OVERLAYqD CIRCUMFLEX ACCENTmWN TACK BELOWoWARDS ARROW",
  "kENCLOSING CIRCLE+a BACKSLASHuDIAMONDuKEYCAPuSCREENvQUAREuUPWARD POINTING TRIANGLElQUALS SIGN BELOW",
  "kFERMATAlOUR DOTS ABOVEkGLAGOLITIC LETTER AZU+cBIG YUS+dUKY+cCHRIVI+cDJERVI+dOBRO+cFITA+dRITU",
  "+cGLAGOLI+cHERU+cI+dNITIAL IZHE+dOTATED BIG YUS+kSMALL YUS+dZHE+cKAKO+cLJUDIJE+cMYSLITE+cNASHI+cONU",
  "+cPOKOJI+cRITSI+cSHA+eTA+dLOVO+dMALL YUS+cTSI+dVRIDO+cUKU+cVEDE+cYATI+dERI+fU+eSTU+dO+dU+cZEMLJA",
  "+dHIVETElRANTHA DIGIT FIVEzOURyONEySIXyTHREEzWOyZEROsLETTER AzKAzNAzPAzVInPHEME JOINERnVE ACCENT",
  "w BELOWqTONE MARKp-ACUTE-GRAVEqMACRONmEEK DIALYTIKA TONOSqKORONISqMUSICAL PENTASEMEyTETRASEMEzRISEME",
  "qPERISPOMENIqYPOGEGRAMMENIkHOMOTHETIC ABOVEmOK ABOVEmRNkINFINITYmVERTED BREVEy BELOWvIDGE BELOW",
  "tDOUBLE ARCH ABOVE+fBELOWlS BELOWkKATAKANA-HIRAGANA SEMI-VOICED SOUND MARK+cVOICED SOUND MARK",
  "mVYKA ABOVE LEFTxRIGHTkLATIN LETTER SMALL CAPITAL G+lL+lM+lN+lRqSMALL LETTER A+e WITH DIAERESIS+eE",
  "+eLPHA+eO+eV+dB+eETA+dC+e CEDILLA+dD+dE+eSH+eTH+dF+eLATTENED OPEN A ABOVE+dG+dH+dI+eNSULAR D+lG+lR",
  "+lT+dK+dL+e WITH DOUBLE MIDDLE TILDE+eONG S+dM+dN+dO+e WITH DIAERESIS+kLIGHT CENTRALIZATION STROKE",
  "+dP+dR+e BELOW+fROTUNDA+dS+eCHWA+dT+eURNED W BELOW+dU+e WITH DIAERESIS+kLIGHT CENTRALIZATION STROKE",
  "+dV+dW+e BELOW+dX+dZlEFT ANGLE ABOVEvBELOWqRROW ABOVEvBELOWuHEAD ABOVEzBELOWpHALF RING ABOVEzBELOW",
  "rRPOON ABOVEpPARENTHESIS ABOVE LEFT+bBELOW LEFTpRIGHT ARROW ABOVE+bBELOWpTACK BELOW",
  "oWARDS ARROW OVERLAYuHARPOON WITH BARB DOWNWARDSlIGATURE LEFT HALF+c BELOWtRIGHT HALF+d BELOW",
  "nHT CENTRALIZATION STROKE BELOWlONG DOUBLE SOLIDUS OVERLAYpSOLIDUS OVERLAYqTROKE OVERLAY",
  "pVERTICAL LINE OVERLAYmW LINEkMACRONq BELOWrLEFT HALF+a BELOWrRIGHT HALF+b BELOWq-ACUTErBREVErGRAVE",
  "lINUS SIGN BELOWkNOT TILDE ABOVElUMBER SIGN ABOVEkOGONEKq ABOVElLD PERMIC LETTER AN+cDOI+cNENOE+cSII",
  "+cZATAlPEN MARK BELOWlVERLINEkPALATALIZED HOOK BELOWmRENTHESES ABOVEwBELOWwOVERLAYlLUS SIGN ABOVE",
  "uBELOWkRETROFLEX HOOK BELOWmVERSE SOLIDUS OVERLAYrD COMMA ABOVElIGHT ARROW ABOVEwBELOWvHEAD ABOVE",
  "+bND DOWN ARROWHEAD BELOW+eUP ARROWHEAD BELOW+aBELOWqHALF RING ABOVE+aBELOWsRPOON ABOVE",
  "qPARENTHESIS ABOVE RIGHT+cBELOW RIGHTqTACK BELOWpWARDS HARPOON WITH BARB DOWNWARDSmNG ABOVEpBELOW",
  "pOVERLAYkSEAGULL BELOWlHORT SOLIDUS OVERLAYrTROKE OVERLAYqVERTICAL LINE OVERLAYlNAKE BELOW",
  "lQUARE BELOWsRACKETS ABOVElTRONG CENTRALIZATION STROKE BELOWlUSPENSION MARKkTHREE DOTS ABOVElILDE",
  "p BELOWqLEFT HALF BELOWqOVERLAYqRIGHT HALF BELOWlRIPLE ACUTE ACCENTrDOTrUNDERDOTlURNED COMMA ABOVE",
  "kUP TACK ABOVEsBELOWmWARDS ARROW BELOWlR ABOVElS ABOVEkVERTICAL LINE ABOVEyBELOWtTILDE",
  "kWIDE BRIDGE ABOVEpINVERTED BRIDGE BELOWmGGLY LINE BELOWkX ABOVEmBELOWl-X BELOWkZIGZAG ABOVErBELOW",
  "dETdMAeERCIAL ATlMINUS SIGNdPASSeLEMENTeOSITION SYMBOLeRESSIONcNFETTI BALLeOUNDED FACEeUSED FACE",
  "dGRUENT WITH DOT ABOVEdICAL TAPERdJUNCTIONdSTRUCTION SIGNnWORKERdTAINS AS MEMBERmNORMAL SUBGROUP",
  "+b OR EQUAL TOjWITH LONG HORIZONTAL STROKEoOVERBARoVERTICAL BAR AT END OF HORIZONTAL STROKE",
  "eINUOUS UNDERLINE SYMBOLeOUR INTEGRALeROL KNOBSiSEQUENCE INTRODUCERdVENIENCE STOREcOKED RICEeIEfNG",
  "cPTIC CAPITAL LETTER AKHMIMIC KHEIxLFAwBOHAIRIC KHEIwCROSSED SHEIyYPTOGRAMMIC EIE+kGANGIA+kNI+kSHEI",
  "wDALDAxEIxIALECT-P ALEF+gHORI+gKAPA+gNIwEIEwFEIxIwGAMMAyNGIAwHATExORIwIAUDAwKAPAxHEIyIxSI",
  "wL-SHAPED HAxAULAwMIwNIwOxLD COPTIC AIN+hDJA+hESH+hGANGIA+hHA+jT+iEI+iORI+hOOU+hSHEI+jIMA",
  "+aNUBIAN NGI+iYI+hSHIMA+hWAUxOUwPIxSIwROwSAMPIxHEIyIMAxIMAxOUwTAUxHETHEwUAwVIDAwZATA",
  "iOMBINING NI ABOVErSPIRITUS ASPER+aLENIShEPACT DIGIT EIGHTtFIVEuOURtNINEtONEtSEVENuIXtTHREEuWO",
  "nNUMBER EIGHT HUNDREDzYuFIFTYwVE HUNDREDvORTYwUR HUNDREDuNINE HUNDREDyTYuONE HUNDREDuSEVEN HUNDRED",
  "zTYvIX HUNDREDxTYuTENvHIRTYwREE HUNDREDvWENTYwO HUNDREDnTHOUSANDS MARKhFRACTION ONE HALFiULL STOP",
  "hMORPHOLOGICAL DIVIDERhOLD NUBIAN DIRECT QUESTION MARKsFULL STOPsINDIRECT QUESTION MARK",
  "sVERSE DIVIDERhSMALL LETTER AKHMIMIC KHEIvLFAuBOHAIRIC KHEIuCROSSED SHEIwYPTOGRAMMIC EIE+iGANGIA+iNI",
  "+iSHEIuDALDAvEIvIALECT-P ALEF+eHORI+eKAPA+eNIuEIEuFEIvIuGAMMAwNGIAuHATEvORIuIAUDAuKAPAvHEIwIvSI",
  "uL-SHAPED HAvAULAuMIuNIuOvLD COPTIC AIN+fDJA+fESH+fGANGIA+fHA+hT+gEI+gORI+fOOU+fSHEI+hIMAyNUBIAN NGI",
  "+gYI+fSHIMA+fWAUvOUuPIvSIuROuSAMPIvHEIwIMAvIMAvOUuTAUvHETHEuUAuVIDAuZATAiYMBOL KAIpHI ROoMI ROoPI RO",
  "oSHIMA SIMApTAUROSoTAU ROdYLEFT SYMBOLeRIGHT SIGNcRALdNISH VERSE DIVIDERdRESPONDS TOcUCH AND LAMP",
  "dNTERBOREhSINKfING ROD TENS DIGIT EIGHTyFIVEzOURyNINEyONEySEVENzIXyTHREEzWOnUNIT DIGIT EIGHTyFIVE",
  "zOURyNINEyONEySEVENzIXyTHREEzWOdPLE WITH HEARTcWd FACEbRcABcEDIT CARDdSCENT MOONcICKETh BAT AND BALL",
  "cOCODILEdISSANTdSS MARKgOF JERUSALEMjLORRAINEgPATTY WITH LEFT CROSSBARrRIGHT CROSSBARhOMMEE",
  "m WITH HALF-CIRCLE BELOWfED FLAGSiNEGATIVE SQUARED LATIN CAPITAL LETTER PiSWORDSfING LANESdWNcUTCH",
  "dZEIRO SIGNcYING CAT FACEhFACEdSTAL BALLbSIbUBE ROOTcCUMBERcNEIFORM NUMERIC SIGN EIGHT ASH+dDISH",
  "+dGESH2+dSHAR2+dU+e VARIANT FORM+dVARIANT FORM USSU+u3yLAMITE FIFTY+gORTY+fONE THIRD+fTWO THIRDS",
  "xFIVE ASH+f TENU+cBAN2+g VARIANT FORM+dURU+cDISH+cGESH2+gU+cSHAR2+gU+dIXTHS DISH+cU+d VARIANT FORM",
  "yOUR ASH+f TENU+cBAN2+g VARIANT FORM+dURU+cDISH+cGESH2+gU+cSHAR2+gU+cU+d VARIANT FORM",
  "+cVARIANT FORM LIMMU+u A+vB+u4xNIGIDAESH+dMINzNE ASH+cDISH+cGESH2+cSHAR2+cU+d VARIANT FORM",
  "+cVARIANT FORM ILIMMU+v A+v3+v4xOLD ASSYRIAN ONE QUARTER+oSIXTHyNE BAN2+cURU+bEIGHTH ASH+cSHE3",
  "+bGESH2+fU+bHALF GUR+bQUARTER ASH+jGUR+bSHARU+bTHIRD DISH+hVARIANT FORM AxSEVEN ASH+dDISH+dGESH2",
  "+dSHAR2+dU+e VARIANT FORM+dVARIANT FORM IMIN A+vB+u3yHAR2 TIMES GAL PLUS DISH+sMINyIX ASH+e TENU",
  "+bDISH+bGESH2+bSHAR2+bU+c VARIANT FORM+bVARIANT FORM ASH9xTHREE ASH+g TENU+dBAN2+eURU+h VARIANT FORM",
  "+dDISH+dGESH2+hU+dSHAR2+i VARIANT FORM+hU+i VARIANT FORM+dVARIANT FORM ESH16+t21yWO ASH+e TENU+bBAN2",
  "+cURU+bESHE3+bGESH2+fU+bSHAR2+fU+bTHIRDS DISH+iVARIANT FORM AkPUNCTUATION SIGN DIAGONAL COLON",
  "+kQUADCOLON+kTRICOLON+bOLD ASSYRIAN WORD DIVIDER+bVERTICAL COLONkSIGN Aq TIMES AxBADxGAN2 TENUxHA",
  "xIGIxLAGAR GUNUxMUSHxSAGq2qBr GUNUsTIMES ASH2yDUN3 GUNUyGAL+aN2 TENUyHAyIGI GUNUzMINyLAGAByNUN",
  "+b TENUySHESH+aU2yU PLUS U PLUS Ur2s TIMES AzBALAGzGAN2 TENUzME PLUS ENzSHA3zTAK4qDr TIMES ESH2qK",
  "r TIMES ERIN2ySHITA PLUS GISHqLr TIMES ALyDIM2yGISHyHAyKAD3zIySHEyUSHrANrEPHqMARt TIMES KUG+aSHEqN",
  "r OVER ANsPLUS NAGA OPPOSING AN PLUS NAGA+cSQUAREDsTHREE TIMESrSHEqPINqRADt TIMES KURrKABqSAL2rH",
  "s KABA TENUtOVER ASH OVER ASH+k CROSSING ASH OVER ASH OVER ASH+cTUG2 OVER TUG2 TUG2 OVER TUG2 PAP",
  "tZIDA TENUs2sGABpBArDs TIMES DISH TENUrG3rHAR2v TIMES AB2+cNI+cZArLs OVER BALsAGrRsA2qIr TIMES AyGAR",
  "yIGI GUNUqUr CROSSING BUsOVER BU AB+aTIMES NA2+aUNrLUGu OVER BULUGrRs2pDAr TIMES TAK4rG",
  "s KISIM5 TIMES A PLUS MASH+hMAR+gBALAG+hI+gGA+i PLUS MASH+hI+iR2+hUD+gHA+gIR+i PLUS LU+gKAK+gLA+hU",
  "+i PLUS MASH2+iM+gNE+gPAP PLUS PAP+gSI+gTAK4+gU2 PLUS GIR2+oMASH+hSHtTIMES KURs3rMrRsA3t4qIrBrM",
  "s TIMES IGIzSHEzU U Us2t TIMES UDrNs KASKAL U GUNU DISHrSHt PLUS SHUqUr GUNUsOVER DUsSHESHIGrB",
  "s TIMES ESH2zSHEs2rGs TIMES ANSHE+aSH+c AT LEFTzDIN+aUNzERIN2zGA+aI+bR2 GUNU+bSHzHA+aIzIGI GUNU",
  "zKASKAL+aUR+bSHU2+f PLUS KASKALzLAK-020+bM+c TIMES KUR+aUH PLUS GISHzMASH+aES+aIzNIzPIzSHE+aI GUNU",
  "sUDrHrNs3t GUNUy GUNUs4rR2pEq OVER E NUN OVER NUNrTIMES PAPq2r TIMES A PLUS HA PLUS DAyGARyKURyMI",
  "yPAPySALzHEyUqDINqGIRqLqNr CROSSING ENsOPPOSING ENsSQUAREDsTIMES GAN2+c TENUyMEqRENrIN2u XqSH2",
  "t CROSSING ESH2qZENt SHESHIG TIMES ASH+iHI+iIGI GUNU+iLA+kL+iME+kS+iSUuTIMES A+b PLUS LAL",
  "+k TIMES LAL+bN+aBAD+aDUN3 GUNU+j GUNU+aGUD+aHA+c GUNU+aIGI GUNU+aKASKAL+g SQUARED+bU3+aLA",
  "+cL TIMES LAL+bI+bU+aSHE+bU+aU2+bDpGAr GUNUr2s OVER GA2tTIMES A PLUS DA PLUS HA+gHA+gIGI",
  "+aB2 TENU PLUS TAB+aN+b PLUS KAK PLUS A+aSH+c2+d PLUS GALzBAD+bHAR2+bR PLUS RA+aUR+c PLUS RAzDA+aI",
  "+bM GUNU+dTIMES SHE+aUB+bG TIMES IGI GUNU+jKASKALzEL+b PLUS LA+aN+b TIMES GAN2 TENU+aRENzGA+bN2 TENU",
  "+bR+c PLUS DI+iNE+aI+b4+c PLUS A+bR2 PLUS SUzHA PLUS A+hLU PLUS ESH2+bL+c PLUS LA+aI PLUS LI+aUB2",
  "zIGI GUNU+aSH PLUS HU PLUS ASHzKAK+bSKAL+aID+c PLUS LAL+aU3 PLUS AN+bSHU2 PLUS KASKALzLA+bM",
  "+c TIMES KUR+aUHzME PLUS EN+aI+aUSHzNE+b PLUS E2+hGI+aUN+c OVER NUNzPAzSAL+bR+aHE+c PLUS TUR+bID+cM",
  "+aUMzTAK4zU+aD+b PLUS DUzZIZ2rBAt CROSSING GABAuROTATED NINETY DEGREESrDs OVER GAD GAR OVER GARrL",
  "s GAD OVER GAD GAR OVER GARsAMrMrNs2t CROSSING GAN2uOVER GAN2uTENUrRs3rSHANqE22rSHTINw TIMES KUR+dU",
  "qIr CROSSING GIsTIMES EyUr4s CROSSING GI4tOVER GI4rDIMrGrR2t GUNUs3t TIMES A PLUS IGI+aGAN2 TENU",
  "+aIGI+aLU PLUS IGI+aPArSALsHt CROSSING GISHuTENUvIMES BAD+aGISH CROSSING GISH+aTAK4qUr CROSSING GUr2",
  "s GUNUtTIMES IGI GUNUzKAK+c TIMES IGI GUNUzNUNzSAL PLUS TUG2rDs OVER GUD LUGALtPLUS GISH TIMES TAK4",
  "tTIMES A PLUS KURzKURrLrMs TIMES SHErRs7sUNtSHpHAr GUNUsTENUw GUNUrLqIr TIMES ASH",
  "+b OVER HI TIMES ASH+b2yBADyDISHyGADyKINyNUNySHEyUqUrB2t TIMES AN+aHAL+aKASKAL+aLISH+aUDrL2rSHpIq A",
  "qBqDIMt OVER IDIM BUR+eSQUAREDqGrIs DIBtGUNUtOVER IGI SHIR OVER SHIR UD OVER UDtRIqL",
  "r TIMES GAN2 TENUr2qMr CROSSING IMsOPPOSING IMsSQUAREDsTIMES TAK4rINqNqRqSHpKAr TIMES AzD+a PLUS KU3",
  "zNSHEzSH2+b3yBAD+aLAG+aRzIzUyERIN2zSH2yGA+aL+aN2 TENU+aR+b PLUS SHA3 PLUS AzI+aR2+aSH",
  "+c CROSSING GISH+dPLUS SARzU+aD+aR7yHI TIMES ASH2yIGIzMyKA+aKzI+aDyLIzU+aMyME+a PLUS DU+gGI+gTEzI",
  "+a PLUS NUNUZyNEzUNyPAzIyRUySA+aRzHA+aE+aID+aU+bLzIGzUHURyTARzUyUz U Uz2zDzMUM TIMES PAzR+a2zSHyZIr2",
  "s CROSSING KA2rBrD2s3s4s5t OVER KAD5rKs TIMES IGI GUNUrLs CROSSING KALtTIMES BADrM2s4rP ELAMITErSKAL",
  "v LAGAB TIMES U OVER LAGAB TIMES UwOVER KASKAL LAGAB TIMES U OVER LAGAB TIMES UqESH2qIr TIMES BADyU",
  "zDrDrNrSALsHsIM5v OVER KISIM5qUr OVER HI TIMES ASH2 KU OVER HI TIMES ASH2r3r4s VARIANT FORMr7rL",
  "s GUNUrNrRs OPPOSING KURrSHU2qWU318pLArGABu SQUAREDvTIMES A+c PLUS DA PLUS HA+iGAR+iLAL+cL+cN",
  "+cSH ZIDA TENU+bBAD+cI+bDAR+bEN+bGA+dR+cI+cUD+e PLUS GUD+bHA+dL+cI TIMES NUN+bIGI GUNU+cM+d PLUS HA",
  "+jLU+bKI+dN+cU3+dL+e PLUS HI PLUS A+bLAGAB+cISH+cU+dL+bME+d PLUS EN+cUSH+bNE+bSHE PLUS SUM",
  "+dITA PLUS GISH PLUS ERIN2+rTENU+dU2+f PLUS SHU2+cUM+bTAG+dK4+cE PLUS A PLUS SU PLUS NA+bU+c PLUS A",
  "+iU PLUS U+c2 PLUS ASH+cD+cSH+bZU OVER ZUtRu GUNUz OVER LAGAR GUNU SHEvTIMES SHE+e PLUS SUMrHSHU",
  "rK-003u21v5u30u50v1u62u79 OVER LAK-079 GUNUu80v1 OVER LAK-081u92t130u42t210v9u20v5v8u38u65v6t343v7v8",
  "u83v4u90t441v9w TIMES GU+dIGI+dPAP PLUS LU3+mPAP PLUS LU3+dU2 PLUS BAu50v7u70u83u90v2v3v5t550t608u17",
  "w TIMES ASH+dBAD+dDUN3 GUNU GUNU+dKU3+dLA+dTAR+eE+dU2+eD+eRUDAu36u48w TIMES DUB+dGA+dIGI+g GUNU+dNI",
  "+dPAP PLUS PAP PLUS LU3+dSHESH PLUS KI+dUD+eRUDAt724u49rLs TIMES LALrMs TIMES KUR+c PLUS RUqIrLrMMU2",
  "rSHqUr TIMES BADr2s CROSSING LU2tGUNU TIMES ASHtOPPOSING LU2tSHESHIG+a TIMES BADuQUAREDtTENUuIMES AL",
  "zBADzDISHzESH2+d PLUS LAL+eTENUzGAN2 TENUzHAL+aI TIMES BADzIMzKAD2+c3+d PLUS ASH+aIzLA PLUS ASH+bGAB",
  "zME PLUS ENzNE+aUzPAP+c PLUS PAP PLUS LU3zSHU+aI PLUS ASH+bK2 PLUS BUzTAK4+aUG2r3rGAL",
  "u OPPOSING LUGALwVER LUGALvSHESHIGrHrLrMs OVER LUM+b GAR OVER GARpMAr GUNUsTIMES TAK4r2rHrRrSHt2qErS",
  "sHqIr PLUS ZA7rNqUr OVER MUrGs GUNUrNSUBrRGU2rSHt CROSSING MUSHuOVER MUSH+d TIMES A PLUS NA+kGA+kKAK",
  "uTIMES A+aKUR+aZAt3u GUNUvTIMES A+c PLUS DI+bDI+bZApNAr2r4rGAt INVERTEDuOPPOSING NAGAuTIMES SHU TENU",
  "tRrMs NUTILLUs2qEr SHESHIGsTIMES AyUDqIr TIMES Er2rMs TIMES GAN2 TENU+bR PLUS GAN2 TENUrNs9sDA2",
  "v TIMES AN+dSH+f PLUS ASH+cBAL+cDIM GUNU+cGI+eSH+dUD+eL+cHI+cKESH2+cLAK-050+cMASH+dE PLUS GAN2 TENU",
  "+cNE+dUN+cPAP PLUS PAP+cSHE+f PLUS A AN+mSH+o PLUS ASH+cU+d PLUS U+d2 PLUS ASH+dRUDA+dSHrSAGqUr11",
  "t OVER NU11 BUR OVER BURuROTATED NINETY DEGREESuTENUrNs CROSSING NUN+f LAGAR OVER LAGAR",
  "tLAGAR TIMES GAR+fMASH+fSAL+i OVER NUN LAGAR TIMES SAL+fUSHtOVER NUNtTENUsUZu AB2 TIMES ASHGAB+fBI",
  "+fDUG+fGUD+fIGI GUNU+fKAD3+fLA+fNE+fSILA3+fU2vKISIM5 TIMES BI+k UpPArDrNrPqESH2u ASTERISKqI",
  "r CROSSING PIsTIMES AzByBIzUyEyIzByUz2rR2sIGu OPPOSING PIRIGvTIMES KAL+bUD+bZApRArBqIqUpSArGs GUNU",
  "x TIMES HAtNUTILLUtOVER SAGtTIMES AzDU+bBzENzHAzIGI GUNUzKAK+aURzLUMzMIzNUNzSAL+aHE AT LEFT+bIDzTAB",
  "+bK4zU2+aB+aM+aR+aSHrLs LAGAB TIMES ASH2rNGA2rRqHAs3t TIMES A+aBAD+aGISH+aNE+aSHU2+aTUR+aU+b PLUS A",
  "s6t TENUsB6sR2rEs HUtOVER SHE+b GAD OVER GAD GAR OVER GAR+cTAB OVER TAB GAR OVER GARtPLUS HUB2yNAM2",
  "ySARsG9sNsSHu2uLAMrIDt TIMES A+aIMsMt TIMES A+aBAL+bULUG+aDIN+aGAR+aIGI+d GUNU+aKUSHU2+aLUL+aMUG",
  "+aSALsNIGsRt OVER SHIR BUR OVER BURuTENUsTArUs OVER INVERTED SHUs2t PLUS DUG TIMES NIzE2 TIMES AN",
  "sBURqIr GUNUsTIMES TAK4rGs4t OVER SIG4 SHU2rK2rLA3qUr OVER SUrDs2rHURrMsASHrRs9pTAr ASTERISKsGUNU",
  "sTIMES HIyMIrBs OVER TAB NI OVER NI DISH OVER DISHtSQUAREDrGs TIMES BIzGUDzSHE+bUzTUG2zUDrK4",
  "t PLUS SAGrRqEr GUNUqIr TENUr2rLrRs OVER TIR+b GAD OVER GAD GAR OVER GARtTIMES TAK4qUrG2rKrM",
  "s TIMES GAN2 TENUzTHREE DISHrRs OVER TUR ZA OVER ZApUq GUDrOVER U PA OVER PA GAR OVER GAR",
  "ySUR OVER SURyU REVERSED OVER U REVERSEDrUs Uq2qBqDr GUNUsKUSHU2sSHESHIGz TIMES BADsTIMES BADyMI",
  "yU PLUS U PLUS U+n GUNUrUGqMr TIMES LAGAByME+a PLUS DAySHA3yUrBINrUMt TIMES KASKAL+aPAqNr GUNUqR",
  "r CROSSING URsSHESHIGr2s INVERTEDtTIMES A PLUS HA+gNA+aLzHAzNUNzU2+b PLUS ASH+hBI+aDr4rIs3rU",
  "s TIMES A+aSHGABzBARzDARA3+aUNzGA+bL+bN2 TENU+bR+aUzHAzIGI+aM+aSHzKIzLAK-668+aU3+bMzMINzPAzSHE+aIG4",
  "zTUzU PLUS GUD+aD+aRUDAsDAu TIMES UqSHs TIMES AzKU+bRzTAK4s2sUMXsXqTUKIqZ3s TIMES KASKALrUpZA",
  "r SQUARED TIMES KURsTENUr7rGrMXqE2qIr OVER ZIr3rBs KABA TENUrGrZ2qUr OVER ZU PLUS SARr5s TIMES A",
  "zTHREE DISH TENUrBURrMcP ON BLACK SQUAREeWITH STRAWdCAKEdIDOcRLING STONEeY BRACKET EXTENSION",
  "gLOGICAL ANDoORiOPdRENCY EXCHANGEjSIGNeY AND RICEdVED STEM PARAGRAPH SIGN ORNAMENTcSTARDeOMS",
  "cT OF MEATbYCLONEcLINDRICITYcPRIOT SYLLABLE ArErIrJAsOrKAsEsIsOsUrLAsEsIsOsUrMAsEsIsOsUrNAsEsIsOsUrO",
  "rPAsEsIsOsUrRAsEsIsOsUrSAsEsIsOsUrTAsEsIsOsUrUrWAsEsIsOrXAsErZAsOeO-MINOAN SIGN CM001w2w4w5w6w7w8w9",
  "v10w1w2xBw3w5w7w9v21w3w4w5w6w7w8w9v30w3w4w5w6w7w8w9v40w1w4w6w7w9v50w1w2w3w4w5w6w8w9v60w1w2w3w4w6w7w8",
  "w9v70w1w2w3w4w5xBw6w8w9v80w1w2w3w4w5w6w7w8w9v90w1w2w4w5w6w7w8w9u100w1w2w3w4w5w7w8w9v10w2w4u301w2",
  "cRILLIC CAPITAL LETTER Az WITH BREVE+fDIAERESISzBKHASIAN CHE+l WITH DESCENDER+iDZE+iHAzLEUT KA",
  "yBARRED O+g WITH DIAERESIS+aSHKIR KAzEzIG YUS+aNOCULAR OzLENDED YUSzROAD OMEGA",
  "zYELORUSSIAN-UKRAINIAN IyCCHEzHE+b WITH DESCENDER+iIAERESIS+hVERTICAL STROKEzLOSED LITTLE YUS",
  "zROSSED OyDCHEzEzJE+bRVzOUBLE MONOCULAR O+fOzWEzZE+bLO+aHE+aWE+aZE+bHEyEz WITH DIAERESISzFzL",
  "+a WITH DESCENDER+gHOOK+gMIDDLE HOOK+gTAILzM+a WITH TAILzN+a WITH DESCENDER+gHOOK+gLEFT HOOK",
  "+gMIDDLE HOOK+gTAILzR+a WITH TICKzS+a WITH DESCENDERyFITAyGHE+b WITH DESCENDER+hMIDDLE HOOK+hSTROKE",
  "+n AND HOOK+hUPTURNzJEyHA+a WITH DESCENDER+gHOOK+gSTROKE+aRD SIGNzWEyIz WITH DIAERESIS+fGRAVE",
  "+fMACRONzE+a WITH BREVE+gGRAVEzO+aTA+bIFIED A+hBIG YUS+hCLOSED LITTLE YUS+hE+hLITTLE YUS+hYATzZHITSA",
  "+f WITH DOUBLE GRAVE ACCENTyJEyKA+a WITH DESCENDER+gHOOK+gSTROKE+gVERTICAL STROKEzHAKASSIAN CHEzJE",
  "zOMI DE+eJE+eZJE+dLJE+dNJE+dSJE+dTJE+dZJE+aPPAzSIyLHAzITTLE YUSzJEyMONOCULAR O+cGRAPH UKyNEUTRAL YER",
  "zJEyOz WITH DIAERESISzMEGA+d WITH TITLOzTyPE+a WITH DESCENDER+gMIDDLE HOOKzSIyQAyREVERSED DZE+hTSE",
  "+hYU+hZEzHAzOUND OMEGAySCHWA+d WITH DIAERESISzEMISOFT SIGNzHA+aCHA+aHA+c WITH DESCENDER+aORT I",
  "+f WITH TAIL+eU+aWEzOFT DE+dEL+eM+dSIGNzTRAIGHT U+i WITH STROKEyTCHEzE+a WITH DESCENDER+gMIDDLE HOOK",
  "zSE+aHE+aSE+aWEzWEyUz WITH DIAERESIS+gOUBLE ACUTE+fMACRONzK+aRAINIAN IEyVEyWEyYA+aE+aTzERU",
  "+c WITH BACK YER+iDIAERESISzIzNzUyZE+a WITH DESCENDER+hIAERESIS+aMLYAzHE+b WITH BREVE+hDESCENDER",
  "+iIAERESIS+aWEsIGATURE A IE+aEN GHE+aTE TSEjKAVYKAjLETTER MULTIOCULAR OqPALOCHKAqSMALL CAPITAL EL",
  "jPAYEROKjSMALL LETTER Ax WITH BREVE+dDIAERESISxBKHASIAN CHE+j WITH DESCENDER+gDZE+gHAxLEUT KA",
  "wBARRED O+e WITH DIAERESISySHKIR KAxExIG YUSyNOCULAR OxLENDED YUSxROAD OMEGAxYELORUSSIAN-UKRAINIAN I",
  "wCCHExHEz WITH DESCENDER+gIAERESIS+fVERTICAL STROKExLOSED LITTLE YUSxROSSED OwDCHExExJEzRV",
  "xOUBLE MONOCULAR O+dOxWExZEzLOyHEyWEyZEzHEwEx WITH DIAERESISxFxLy WITH DESCENDER+eHOOK+eMIDDLE HOOK",
  "+eTAILxMy WITH TAILxNy WITH DESCENDER+eHOOK+eLEFT HOOK+eMIDDLE HOOK+eTAILxRy WITH TICKxS",
  "y WITH DESCENDERwFITAwGHEz WITH DESCENDER+fMIDDLE HOOK+fSTROKE+l AND HOOK+fUPTURNxJEwHA",
  "y WITH DESCENDER+eHOOK+eSTROKEyRD SIGNxWEwIx WITH DIAERESIS+dGRAVE+dMACRONxEy WITH BREVE+eGRAVExOyTA",
  "zIFIED A+fBIG YUS+fCLOSED LITTLE YUS+fE+fLITTLE YUS+fYATxZHITSA+d WITH DOUBLE GRAVE ACCENTwJEwKA",
  "y WITH DESCENDER+eHOOK+eSTROKE+eVERTICAL STROKExHAKASSIAN CHExJExOMI DE+cJE+cZJE+bLJE+bNJE+bSJE+bTJE",
  "+bZJEyPPAxSIwLHAxITTLE YUSxJExONG-LEGGED DEwMONOCULAR O+aGRAPH UKwNARROW OxEUTRAL YERxJEwO",
  "x WITH DIAERESISxMEGA+b WITH TITLOxTwPALOCHKAxEy WITH DESCENDER+eMIDDLE HOOKxSIwQAwREVERSED DZE+fTSE",
  "+fYU+fZExHAxOUND OMEGA+bED VEwSCHWA+b WITH DIAERESISxEMISOFT SIGNxHAyCHAyHA+a WITH DESCENDERyORT I",
  "+d WITH TAIL+cUyWExOFT DE+bEL+cM+bSIGNxTRAIGHT U+g WITH STROKEwTALL HARD SIGN+bTE+bYATxCHExE",
  "y WITH DESCENDER+eMIDDLE HOOKxHREE-LEGGED TExSEyHEySEyWExWEwUx WITH DIAERESIS+eOUBLE ACUTE+dMACRONxK",
  "yRAINIAN IExNBLENDED UKwVEwWExIDE ESwYAyEyTxERU+a WITH BACK YER+gDIAERESISxIxNxUwZEy WITH DESCENDER",
  "+fIAERESISyMLYAxHEz WITH BREVE+fDESCENDER+gIAERESISyWEqIGATURE A IEyEN GHEyTE TSEjTHOUSANDS SIGN"]

def namesD : List String := [
  "aDAGGERg KNIFEhWITH LEFT GUARDmRIGHT GUARDcLET SYMBOLcNCERdGOcRK SHADEgUNGLASSEScSH SYMBOL",
  "fWITH LEFT UPTURNeED LOW LINEhOVERLINEhTRIANGLE-HEADED RIGHTWARDS ARROWcTA LINK ESCAPEbC1c2c3c4cS",
  "bEAF PERSONcCIDUOUS TREEeMAL EXPONENT SYMBOLiSEPARATOR KEY SYMBOLdREASE FONT SIZE SYMBOLcER",
  "cGREE CELSIUShFAHRENHEIThSIGNcLdETEdIVERY TRUCKdTA EQUAL TOcNTISTRY SYMBOL LIGHT DOWN AND HORIZONTAL",
  "+q WITH CIRCLE+wTRIANGLE+wWAVExUP AND HORIZONTAL+o WITH CIRCLE+uTRIANGLE+uWAVE",
  "xVERTICAL AND BOTTOM LEFT+rRIGHT+kTOP LEFT+oRIGHT+kWAVE+gWITH CIRCLE+lTRIANGLEcPARTMENT STORE",
  "cRELICT HOUSE BUILDINGcSCENDING NODEdERET CAPITAL LETTER AYxBEExCHEExDEExEFyLyMyNzGyRySzHyTHyWxGAYxH",
  "xJEExKAYxLONG A+dH+cE+cI+cO+dOxOIyWxPEExSHORT A+eH+dE+dI+dO+eOxTEEyHEExVEExWUxYEExZEEyHEE",
  "iSMALL LETTER AYvBEEvCHEEvDEEvEFwLwMwNxGwRwSxHwTHwWvGAYvHvJEEvKAYvLONG A+bH+aE+aI+aO+bOvOIwWvPEE",
  "vSHORT A+cH+bE+bI+bO+cOvTEEwHEEvVEEvWUvYEEvZEEwHEEfTg ISLANDdKTOP COMPUTERiWINDOW",
  "cVANAGARI ABBREVIATION SIGNmCUTE ACCENTlCARETlDANDAmIGIT EIGHTrFIVEsOURrNINErONErSEVENsIXrTHREEsWO",
  "rZEROmOUBLE DANDAlGAP FILLERmRAVE ACCENTlHEADSTROKElJAIN OMlLETTER AtAtItUtWtYsBAtBAtHAsCAuNDRA AzE",
  "zOtHAsDAtDAuDAvHAuHAtHAsEsFAsGAtGAtHAuHAtLOTTAL STOPsHAtEAVY YAsItIsJAtHAtJAsKAtHAuHAsLAtLAuLAsMA",
  "uRWARI DDAsNAtGAtNAuNAtYAsOtEtOEsPAtHAsQAsRAtHAtRAsSAtHAuORT AyEyOtSAsTAtHAtTAuHAsUtEtUuEsVA",
  "tOCALIC L+bL+aR+bRsYAtYAsZAtHAlOMlSIGN ANUSVARArVAGRAHAqCANDRABINDU+b AVAGRAHA+cTHREE+dWO+cVIRAMA",
  "qDOUBLE CANDRABINDU VIRAMAqHIGH SPACING DOTqINVERTED CANDRABINDUqNUKTAqPUSHPIKAqSIDDHAM",
  "rPACING CANDRABINDUqVIRAMAsSARGAmTRESS SIGN ANUDATTAxUDATTAlVOWEL SIGN AAxIxUxWxYwCANDRA E+dLONG E",
  "+dOwEwIxIwOxExOEwPRISHTHAMATRA EwSHORT E+cOwUxExUyEwVOCALIC L+fL+eR+fRdICE CONTROL FOURpONEpSTRING",
  "pTHREEqWObIAERESISdMETER SIGNeOND OPERATORiSHAPE WITH A DOT INSIDEiTARGETiWITH BOTTOM HALF BLACK",
  "nLEFT HALF BLACKnRIGHT HALF BLACKnTOP HALF BLACKcE FACE-1j2j3j4j5j6dSEL LOCOMOTIVEcFFERENCE BETWEEN",
  "cGIT EIGHTl COMMAmFULL STOPgFIVEk COMMAlFULL STOPhOURk COMMAlFULL STOPgNINEk COMMAlFULL STOPgONE",
  "j COMMAkFULL STOPgSEVENl COMMAmFULL STOPhIXj COMMAkFULL STOPgTHREEl COMMAmFULL STOPhWOj COMMA",
  "kFULL STOPgZEROk COMMAlFULL STOPdRAM FOR EARTHqLY HEAVENuUMANlGREATER YANGuINlHEAVENLY EARTH",
  "mUMAN EARTHlLESSER YANGtINcMENSION ORIGINcNGBAT CIRCLED SANS-SERIF DIGIT EIGHT+hFIVE+iOUR+hNINE+hONE",
  "+hSEVEN+iIX+hTHREE+iWO+hZERO+bNUMBER TENiNEGATIVE CIRCLED DIGIT EIGHT+fFIVE+gOUR+fNINE+fONE+fSEVEN",
  "+gIX+fTHREE+gWOzNUMBER TENzSANS-SERIF DIGIT EIGHT+qFIVE+rOUR+qNINE+qONE+qSEVEN+rIX+qTHREE+rWO+qZERO",
  "+kNUMBER TENcRECT CURRENT SYMBOL FORM TWOhHITcSABLED CARePPOINTED BUT RELIEVED FACEnFACE",
  "dCONTINUOUS UNDERLINE SYMBOLdGUISED FACEcTTO MARKcVES AKURU DIGIT EIGHTsFIVEtOURsNINEsONEsSEVENtIX",
  "sTHREEtWOsZEROnOUBLE DANDAmEND OF TEXT MARKmGAP FILLERmINITIAL RAmLETTER AuAtBAuHAtCAuHAtDAuDAvHAuHA",
  "tEtGAuHAtHAtIuItJAtKAuHAtLAuLAtMAtNAuGAuNAuYAtOtPAuHAtRAtSAuHAuSAtTAuHAuTAtUuUtVAtYAuYAtZAmMEDIAL RA",
  "tYAmPREFIXED NASAL SIGNmSIGN ANUSVARArCANDRABINDUrHALANTArNUKTAmVIRAMAnOWEL SIGN AAyIxExIyIxOxUyU",
  "dIDESeNG MASKeSION SIGNkLASHjTIMESdORCE SYMBOLcYA LAMPcZZY FACEgSYMBOLbLEbNA DOUBLE HELIX",
  "bO NOT LITTER SYMBOLcCUMENTi WITH PICTUREoTEXTs AND PICTUREcDOcES NOT CONTAIN AS MEMBER",
  "uNORMAL SUBGROUP+j OR EQUALjDIVIDEp WITH REVERSED NEGATION SLASHjFORCEjPRECEDEq OR EQUALlOVEjSUCCEED",
  "q OR EQUALcGd FACEdRA ABBREVIATION SIGNgLETTER AoAoIoUnBAoHAnCAoHAnDAoDApHAoHAnEnGAoHAnHAnIoInJAoHA",
  "nKAoHAnLAnMAnNAoGAoNAoYAnOnPAoHAnRAoRAnSAoHAoSAnTAoHAoTApHAnUoUnVAnYAgSIGN ANUSVARAlNUKTAlVIRAMA",
  "nSARGAgVOWEL SIGN AAsIsUrErIsIrOrUsUrVOCALIC R+aRcLLAR SIGNdPHINcMINO TILE HORIZONTAL BACKw-00-00+b1",
  "+b2+b3+b4+b5+b6y1-00+b1+b2+b3+b4+b5+b6y2-00+b1+b2+b3+b4+b5+b6y3-00+b1+b2+b3+b4+b5+b6y4-00+b1+b2+b3",
  "+b4+b5+b6y5-00+b1+b2+b3+b4+b5+b6y6-00+b1+b2+b3+b4+b5+b6mVERTICAL BACKu-00-00z1z2z3z4z5z6w1-00z1z2z3",
  "z4z5z6w2-00z1z2z3z4z5z6w3-00z1z2z3z4z5z6w4-00z1z2z3z4z5z6w5-00z1z2z3z4z5z6w6-00z1z2z3z4z5z6cNG SIGN",
  "cORcT ABOVEeMINUSeOPERATORePLUSdTED CIRCLEiROSShFENCEhLINE FACEhOBELOShRIGHT-POINTING ANGLEhSOLIDUS",
  "iQUAREhTRANSPOSITION MARKERcUBLE ACUTE ACCENThCIRCLED DIGIT EIGHTvFIVEwOURvNINEvONEvSEVENwIXvTHREE",
  "wWOpNUMBER TENiOLON EQUALiURLY LOOPhDAGGERiOWN TACKhEXCLAMATION MARKhHIGH-REVERSED-9 QUOTATION MARK",
  "iYPHENhINTEGRALlRSECTIONhLEFT ARC GREATER-THAN BRACKETiOGICAL ANDpORjW LINEk-9 QUOTATION MARK",
  "lREVERSED-9 QUOTATION MARKhNESTED GREATER-THANoLESS-THANx WITH UNDERBARhOBLIQUE HYPHENhPLUSiRECEDES",
  "jIMEm QUOTATION MARKhQUESTION MARKhRIGHT ARC LESS-THAN BRACKEThSOLIDUS OPERATORiQUARE INTERSECTION",
  "oUNIONiTACKED COMMAjROKE NOT SIGNiUBSETjCCEEDSjPERSETjSPENSION MARKhUNIONiP TACKhVERTICAL BAR",
  "t DOUBLE LEFT TURNSTILE+bRIGHT TURNSTILEuLEFT TURNSTILEqLINEhWAVY OVERLINEg-ENDED MULTIMAP",
  "hLINE EQUAL TO OR GREATER-THANyLESS-THANmSLANTED EQUAL TO OR GREATER-THAN+gLESS-THAN",
  "uGREATER-THAN OR EQUAL TOuLESS-THAN OR EQUAL TOhSTRUCK CAPITAL CwGAMMAwHwNwPxIwQwRwZ",
  "oITALIC CAPITAL DvSMALL D+bE+bI+bJoN-ARY SUMMATIONoSMALL GAMMAuPIgD FEMALE SIGNiMALE SIGNiSYMBOL",
  "dGHNUTcVE OF PEACEcWN ARROWHEADfFISH TAILfRIGHT DIAGONAL ELLIPSISfTACKj WITH CIRCLE BELOW",
  "e-POINTING RED TRIANGLEoSMALL RED TRIANGLEoTRIANGLE WITH LEFT HALF BLACK+cRIGHT HALF BLACK",
  "eWARD FACING HOOKu WITH DOTqNOTCHED HOOK+c WITH DOTiS ANCORAlRROWp AND RIGHT ONE EIGHTH BLOCK",
  "qFROM BARqLEFTWARDS OF UPWARDS ARROWqTO BARqWITH CORNER LEFTWARDSvDOUBLE STROKE",
  "vEQUILATERAL ARROWHEADvHORIZONTAL STROKEvLARGE TRIANGLE ARROWHEADvMEDIUM TRIANGLE ARROWHEAD",
  "vNOTCHED TAILvSMALL EQUILATERAL ARROWHEAD+bTRIANGLE ARROWHEADvTIP LEFTWARDSzRIGHTWARDSkBLACK ARROW",
  "qCIRCLED WHITE ARROWkCOMPRESSED ARROWkDASHED ARROWlOUBLE ARROWkFINGER-POST ARROW",
  "kHARPOON WITH BARB LEFT BESIDE DOWNWARDS HARPOON WITH BARB RIGHT+oUPWARDS HARPOON WITH BARB RIGHT",
  "+hFROM BAR+hTO BAR+gWARDS+cRIGHT FROM BAR+iTO BAR+hWARDSlEAVY ARROWqCOMPRESSED ARROWkPAIRED ARROWS",
  "kQUADRUPLE ARROWkROCKETkSANS-SERIF ARROWlQUARED ARROWkTRIANGLE ARROWHEADs-HEADED ARROW",
  "+f LEFTWARDS OF UPWARDS TRIANGLE-HEADED ARROW+gTO BAR+gWITH BOLD SHAFT+lDOUBLE HORIZONTAL STROKE",
  "+lHEAVY SHAFT+lLONG TIP LEFTWARDS+uRIGHTWARDS+lMEDIUM SHAFT+lNARROW SHAFT+lVERY HEAVY SHAFT",
  "+aDASHED ARROW+aPAIRED ARROWS+aZIGZAG ARROWnPLE ARROWlWO HEADED ARROW",
  "n-HEADED ARROW WITH TRIANGLE ARROWHEADSkWHITE ARROWv WITHIN TRIANGLE ARROWHEADkZIGZAG ARROW",
  "bRACHMA SIGNdFTING POINT RIGHTWARDS ARROWdGONg FACEcESScIVE SLOW SIGNcOMEDARY CAMELdOLING FACE",
  "dP OF BLOODeLETcUM WITH DRUMSTICKSbUCKcMPLINGcPLOYAN AFFIX ATTACHED E HOOKyI HOOK",
  "yLEFT-TO-RIGHT SECANTySECANTyTAIL+aNGENT+f HOOKpHIGH ACUTEuCIRCLEuDOTuGRAVEuLINEvONG GRAVE",
  "uTIGHT ACUTEuVERTICAL+c SECANTuWAVEpLEFT HORIZONTAL SECANTqOW ACUTEuRROWtCIRCLEtDOTtGRAVEtLINE",
  "uONG GRAVEtTIGHT ACUTEtVERTICAL+b SECANTtWAVEpMID HORIZONTAL SECANTtVERTICAL SECANT",
  "pRIGHT HORIZONTAL SECANTjDOUBLE MARKjLETTER ArOUqBqDr SrHqErErUqFr NqGr R SqHrLqIrEqJr Mt SsNt SsS",
  "t WITH DOTsWITH DOT+aS INSIDE AND ABOVEqKr MsR SrKqLrHrONG IvUqMr Nt SsSsWITH DOTqNr Mt SsSsWITH DOT",
  "rASAL AwIwOwUqOrArOHrUrWqPr NrERNIN AMyNqRr SrHrOMANIAN IzUqSr Jt SsKt RsMsNsPt RsSsTt RsWITH DOT",
  "+a BELOWrHORT IrLOAN ANwDHwEExHxNwJwONxWwUqTr R SsSrHqUr NrHrIqVrOCALIC MqWr RrArEIrHrIrOsWqXrWqYE",
  "jPUNCTUATION CHINOOK FULL STOPjSIGN O WITH CROSSjTHICK LETTER SELECTORbVD"]

def namesE : List String := [
  "aE-MAIL SYMBOLbAGLEcRd OF MAIZEhRICEeWITH HEARING AIDdTHf GLOBE AMERICASnSIA-AUSTRALIAmEUROPE-AFRICA",
  "hROUNDcST SYRIAC CROSSbDITORIAL CORONISbGGcYPTIAN HIEROGLYPH A001x2x3x4x5yAx6yAyBx7x8x9w10x1x2x3x4yA",
  "x5x6x7yAx8x9w20x1x2x3x4x5x6x7x8x9w30x1x2yAx3x4x5x6x7x8x9w40yAx1x2yAx3yAx4x5yAx6x7x8x9w50x1x2x3x4x5x6",
  "x7x8x9w60x1x2x3x4x5x6x7x8x9w70vA001y2y3y4y5y6y7zAzBy8y9x10y1y2y3y4y5y6y7y8y9x20y1y2y3y4y5y6y7y8y9x30",
  "y1y2uB001x2x3x4x5yAx6x7x8x9vEGIN SEGMENTuC001x2yAyByCx3x4x5x6x7x8x9w10yAx1x2x3x4x5x6x7x8x9w20x1x2x3",
  "x4uD001x2x3x4x5x6x7x8yAx9w10x1x2x3x4x5x6x7x8x9w20x1x2x3x4x5x6x7yAx8x9w30x1yAx2x3x4yAx5x6x7x8x9w40x1",
  "x2x3x4x5x6yAx7x8yAx9w50yAyByCyDyEyFyGyHyIx1x2yAx3x4yAx5x6x7x8x9w60x1x2x3x4x5x6x7yAyByCyDyEyFyGyH",
  "uE001x2x3x4x5x6x7x8yAx9yAw10x1x2x3x4x5x6yAx7yAx8x9w20yAx1x2x3x4x5x6x7x8yAx9w30x1x2x3x4yAx6x7x8",
  "vND SEGMENTuF001yAx2x3x4x5x6x7x8x9w10x1x2x3yAx4x5x6x7x8x9w20x1yAx2x3x4x5x6x7x8x9w30x1yAx2x3x4x5x6x7",
  "yAx8yAx9w40x1x2x3x4x5yAx6yAx7yAx8x9w50x1yAyByCx2x3uG001x2x3x4x5x6yAx7yAyBx8x9w10x1yAx2x3x4x5x6x7x8x9",
  "w20yAx1x2x3x4x5x6yAx7x8x9w30x1x2x3x4x5x6yAx7yAx8x9w40x1x2x3yAx4x5yAx6x7x8x9w50x1x2x3x4uH001x2x3x4x5",
  "x6yAx7x8vORIZONTAL JOINERuI001x2x3x4x5yAx6x7x8x9yAw10yAx1yAx2x3x4x5vNSERT AT BOTTOM END+lSTART",
  "+eTOP END+iSTARTuK001x2x3x4x5x6x7x8uL001x2yAx3x4x5x6yAx7x8uM001yAyBx2x3yAx4x5x6x7x8x9w10yAx1x2yAyByC",
  "yDyEyFyGyHx3x4x5yAx6yAx7yAx8x9w20x1x2yAx3x4yAx5x6x7x8yAx9w30x1yAx2x3yAyBx4x5x6x7x8x9w40yAx1x2x3x4",
  "uN001x2x3x4x5x6x7x8x9w10x1x2x3x4x5x6x7x8yAyBx9w20x1x2x3x4x5yAx6x7x8x9w30x1x2x3yAx4yAx5yAx6x7yAx8x9",
  "w40x1x2vL001y2y3y4y5zAy6y7y8y9x10y1y2y3y4y5y6y7zAy8y9x20vU001y2y3y4y5y6y7y8y9x10zAy1zAy2y3y4y5y6y7y8",
  "zAy9x20y1y2zAuO001yAx2x3x4x5yAx6yAyByCyDyEyFx7x8x9w10yAyByCx1x2x3x4x5x6x7x8x9yAw20yAx1x2x3x4yAx5yAx6",
  "x7x8x9yAw30yAx1x2x3yAx4x5x6yAyByCyDx7x8x9w40x1x2x3x4x5x6x7x8x9w50yAyBx1vVERLAY MIDDLEuP001yAx2x3yAx4",
  "x5x6x7x8x9w10x1uQ001x2x3x4x5x6x7uR001x2yAx3yAyBx4x5x6x7x8x9w10yAx1x2x3x4x5x6yAx7x8x9w20x1x2x3x4x5x6",
  "x7x8x9uS001x2yAx3x4x5x6yAx7x8x9w10x1x2x3x4yAyBx5x6x7yAx8x9w20x1x2x3x4x5x6yAyBx7x8x9w30x1x2x3x4x5yAx6",
  "x7x8x9w40x1x2x3x4x5x6uT001x2x3yAx4x5x6x7yAx8yAx9yAw10x1yAx2x3x4x5x6yAx7x8x9w20x1x2x3x4x5x6x7x8x9w30",
  "x1x2yAx3yAx4x5x6uU001x2x3x4x5x6yAyBx7x8x9w10x1x2x3x4x5x6x7x8x9w20x1x2x3yAx4x5x6x7x8x9yAw30x1x2yAx3x4",
  "x5x6x7x8x9w40x1x2uV001yAyByCyDyEyFyGyHyIx2yAx3x4x5x6x7yAyBx8x9w10x1yAyByCx2yAyBx3x4x5x6x7x8x9w20yAyB",
  "yCyDyEyFyGyHyIyJyKyLx1x2x3yAx4x5x6x7x8yAx9yAw30yAx1yAx2x3yAx4x5x6x7yAx8x9w40yAvERTICAL JOINERuW001x2",
  "x3yAx4x5x6x7x8x9yAw10yAx1x2x3x4yAx5x6x7yAx8yAx9w20x1x2x3x4yAx5uX001x2x3x4yAyBx5x6yAx7x8yAuY001yAx2x3",
  "x4x5x6x7x8uZ001x2yAyByCyDx3yAyBx4yAx5yAx6x7x8x9w10x1x2x3x4x5yAyByCyDyEyFyGyHyIx6yAyByCyDyEyFyGyH",
  "bIGHT PETALLED OUTLINED BLACK FLORETTEhOINTED BLACK STARoPINWHEEL STARoRECTILINEAR BLACK STAR",
  "gSPOKED ASTERISKgTEARDROP-SPOKED PROPELLER ASTERISKfH NOTEbJECT SYMBOLbLBASAN LETTER ApBEpCEqHEpDE",
  "qHEpEqIpFEpGEqHAMMArEqJEpHEpIpJEpKEqHEpLEqLEpMEpNAqDEqEqJEpOpPEpQEpREqREpSEqHEpTEqHEpUpVEpXEpYpZEqHE",
  "cECTRIC ARROWjLIGHT BULBjPLUGjTORCHiAL INTERSECTIONdMENT OFk OPENING DOWNWARDStUPWARDS",
  "lWITH DOT ABOVEqLONG HORIZONTAL STROKEqOVERBARqTWO HORIZONTAL STROKESqUNDERBAR",
  "qVERTICAL BAR AT END OF HORIZONTAL STROKEdPHANTdVATORcFcYMAIC LETTER ALEPHqYINpBETHpDALETHpGIMELpHE",
  "rTHpKAPHpLAMEDHpMEMpNUNpPEpQOPHpRESHpSADHErMEKHqHINpTAWqETHpWAWpYODHpZAYINjIGATURE ZAYIN-YODHbM DASH",
  "dQUADdSPACEcOJI COMPONENT BALDqCURLY HAIRqRED HAIRqWHITE HAIRgMODIFIER FITZPATRICK TYPE-1-2+g3+g4+g5",
  "+g6cPHASIS SYMBOLdTY DOCUMENTgNESThOTEk PADnGEgPAGEkSgSETj WITH LEFT ARROW ABOVEpOVERBAR",
  "pRIGHT ARROW ABOVEpSMALL CIRCLE ABOVEbN DASHdQUADdSPACEcD OF GUARDED AREAhLINEhMEDIUMhPROOF",
  "kTECTED AREAhSELECTED AREAhTEXTiRANSMISSIONt BLOCKeWITH LEFTWARDS ARROW ABOVEcQdUIRYcTER SYMBOL",
  "cVELOPEi WITH DOWNWARDS ARROW ABOVEoLIGHTNINGbOLcMcTbPAbQUAL AND PARALLEL TOgTO BY DEFINITION",
  "jOR GREATER-THANmLESS-THANmPRECEDESmSUCCEEDSfS COLONhSIGNl ABOVE LEFTWARDS ARROWsPLUS SIGN",
  "sRIGHTWARDS ARROWsTILDE OPERATORnND SLANTED PARALLEL+g WITH TILDE ABOVEmWITH BUMPY ABOVErDOT BELOW",
  "rINFINITY BELOWrTWO DOTS ABOVE AND TWO DOTS BELOWhWITH ASTERISKdIANGULAR TOeVALENT TO",
  "lWITH FOUR DOTS ABOVEbRASE TO THE LEFTnRIGHTcIS FORM ONEkTWOcROR-BARRED BLACK CIRCLEtDIAMONDtSQUARE",
  "nWHITE CIRCLEtDIAMONDtSQUAREbSAcCdAPEcTIMATED SYMBOLiSbTBcHIOPIC COLON",
  "lMBINING GEMINATION AND VOWEL LENGTH MARK+eMARKtVOWEL LENGTH MARKmMAjDIGIT EIGHTpFIVEqOURpNINEpONE",
  "pSEVENqIXpTHREEqWOjFULL STOPjNUMBER EIGHTYqFIFTYrORTYqHUNDREDqNINETYqSEVENTYrIXTYqTENt THOUSAND",
  "rHIRTYrWENTYjPARAGRAPH SEPARATORkREFACE COLONjQUESTION MARKjSECTION MARKlMICOLONkYLLABLE BAuAtBAvAuE",
  "vEuIuOuUtEuEtItOuAtUtWAuEvEuIsCAuAtCAvAuEvEuHAwAvEwEvHAxAwExEwIwOwUvIvOvUuIuOuUtEuEtHAvAuEvEuIuOvAuU",
  "uWAtItOuAtUtWAsDAuAtDAvAuEvEuHAAvEwEvIvOvUuIuOvAuUuWAtEuEtItOuAtUtWAtZAAuEvEuIuOuUsFAuAtEuEtItOtUtWA",
  "uEvEuItYAsGAuAtEuEtGAvAuEvEuIuOuUuWAwAvEwEvItItLOTTAL A+bA+aE+bE+aI+aO+bA+aU+aWAtOuAtUuRAGE BWEE+bI",
  "zFWEE+bIzGWE+cE+bIzHHWAzKWE+cE+bIzMWEE+bIzPWEE+bIzQWE+cE+bItWAvAuEvEuItYAvAuEvEuIuOuUsHAuAtEuEtHAvA",
  "uEvEuIuOuUuWAvEwEvIuYAwAvEwEvIvOvUtItOuAtUsJAuAtEuEtItOuAtUtWAsKAuAtEuEtItOuAtUtWAvAuEvEuItXAvAuEvE",
  "uIuOuUuWAwAvEwEvItYAvAuEvEuIuOuUsLAuAtEuEtItOuAtUtWAsMAuAtEuEtItOuAtUtWAuEvEuItYAsNAuAtEuEtItOuAtU",
  "tWAtYAvAuEvEuIuOvAuUuWAsPAuAtEuEtHAvAvRYNGEAL A+eA+dE+eE+dI+dO+dUuEvEuIuOvAuUuWAtItOuAtUtWAuEvEuIsQA",
  "uAtEuEtHAvAuEvEuIuOuUuWAwAvEwEvItItOuAtUtWAvAuEvEuItYAvAuEvEuIuOuUsRAuAtEuEtItOuAtUtWAtYAsSAuAtE",
  "uBATBEIT BWA+cFWA+cMWA+cPWAuEtHAvAuEvEuIuOvAuUuWAtItOuAtSAvAuEvEuIuOuUtUtWAtZAvAuEvEuIuOuUuWAsTAuAtE",
  "uEtHAvAuEvEuIuOvAuUuWAtItOuAtSAvAuEvEuIuOuUuWAtTHAAvEwEvIvOvUtUtWAtZAvAuEvEuIuOvAuUsVAuAtEuEtItOtU",
  "tWAsWAuAtEuEtItOuAtUsXAuAtEuEtItOuAtUtWAvAuEvEuItYAvAuEvEuIuOuUsYAuAtEuEtItOuAtUsZAuAtEuEtHAvAuEvEuI",
  "uOuUuWAtItOuAtUtWAtZAvAuEvEuIuOuUjTONAL MARK CHIRETuDERETz-HIDETvIFATuHIDETuKENATvURTuRIKRIK",
  "uSHORT RIKRIKuYIZETjWORDSPACEcXbULER CONSTANTcRO SIGNe-CURRENCY SIGNePEAN CASTLEjPOST OFFICE",
  "bVERGREEN TREEbXCESSdLAMATION MARKmQUESTION MARKcPRESSIONLESS FACEcTENDED ARABIC-INDIC DIGIT EIGHT",
  "+cFIVE+dOUR+cNINE+cONE+cSEVEN+dIX+cTHREE+dWO+cZEROdRATERRESTRIAL ALIEN",
  "eEMELY HEAVY FIVE SPOKED ASTERISKqGREEK CROSSqSALTIRErIX SPOKED ASTERISKqWHITE CIRCLEwSQUAREbYE",
  "dGLASSESdS"]

def namesF : List String := [
  "aFACE HOLDING BACK TEARSfMASSAGEfPALMfSAVOURING DELICIOUS FOODgCREAMING IN FEARfTHROWING A KISS",
  "fWITH COLD SWEATmWBOY HATkDIAGONAL MOUTHkFINGER COVERING CLOSED LIPSkHEAD-BANDAGEkLOOK OF TRIUMPH",
  "kMEDICAL MASKlONOCLEkNO GOOD GESTUREkOK GESTURElNE EYEBROW RAISEDlPEN EYES AND HAND OVER MOUTHpMOUTH",
  "u AND COLD SWEATvVOMITINGkPARTY HORN AND PARTY HATlEEKING EYElLEADING EYESkROLLING EYES",
  "kSTUCK-OUT TONGUE+a AND TIGHTLY-CLOSED EYES+fWINKING EYEkTEARS OF JOYlHERMOMETER",
  "kUNEVEN EYES AND WAVY MOUTHjOUT MOUTHdSIMILE SIGNdTORYcIRYcLAFELdLEN LEAF",
  "eING DIAGONAL CROSSING NORTH EAST ARROW+aRISING DIAGONALrIN WHITE CIRCLE IN BLACK SQUAREcMILY",
  "cRSI SYMBOLcTHER CHRISTMAScX ICONeMACHINEbEARFUL FACEdTHERcMALE SIGNdININE ORDINAL INDICATORcNCER",
  "cRRIS WHEELeYbFbIELD HOCKEY STICK AND BALLcGURE DASHhSPACEcLE CABINETfFOLDERfSEPARATORdM FRAMES",
  "fPROJECTORcNITE PART INTEGRALcREe ENGINEgXTINGUISHEReCRACKEReWORK SPARKLERiSdST PLACE MEDAL",
  "gQUARTER MOONs SYMBOLtWITH FACEgSTRONG ISOLATEcSHe CAKE WITH SWIRL DESIGNeEYEeING POLE AND FISH",
  "dTED HAND SIGNcVE DOT MARKjPUNCTUATIONbLAG IN HOLEdMINGOdT SHOEeBREADeNESScEUR-DE-LISdXED BICEPS",
  "cOPPY DISKdRAL HEARTdWERg PLAYING CARDSiUNCTUATION MARKcUSHED FACEcYdING DISChENVELOPEhSAUCERbOGdGY",
  "cLDERcNDUEcOTePRINTScR ALLdCESdK AND KNIFEo WITH PLATEeED PARAGRAPHOSeINGdM FEEDdTUNE COOKIEcUNTAIN",
  "dR BALLOON-SPOKED ASTERISKfCLUB-SPOKED ASTERISKgORNER ARROWS CIRCLING ANTICLOCKWISEfDOT MARK",
  "jPUNCTUATIONfLEAF CLOVERfPOINTED BLACK STARfTEARDROP-SPOKED ASTERISKe-PER-EM SPACEeTH ROOTcX FACE",
  "bRACTION NUMERATOR ONEjSLASHdME WITH AN XlPICTURElTILEScEEZING FACEdNCH FRANC SIGNjIEScIED SHRIMP",
  "cOG FACEdNT-FACING BABY CHICKgTILTED SHADOWED WHITE RIGHTWARDS ARROWdWNfING FACE WITH OPEN MOUTHbScI",
  "bUEL PUMPcLL BLOCKfMOON SYMBOLkWITH FACEfOUTER JOINfSTOPeWIDTH AMPERSANDlPOSTROPHElSTERISK",
  "kBROKEN BARkCENT SIGNlIRCUMFLEX ACCENTlOLONmMMAoERCIAL ATkDIGIT EIGHTqFIVErOURqNINEqONEqSEVENrIX",
  "qTHREErWOqZEROlOLLAR SIGNkEQUALS SIGNlXCLAMATION MARKkFULL STOPkGRAVE ACCENTmEATER-THAN SIGN",
  "kHYPHEN-MINUSkLATIN CAPITAL LETTER A+fB+fC+fD+fE+fF+fG+fH+fI+fJ+fK+fL+fM+fN+fO+fP+fQ+fR+fS+fT+fU+fV",
  "+fW+fX+fY+fZqSMALL LETTER A+dB+dC+dD+dE+dF+dG+dH+dI+dJ+dK+dL+dM+dN+dO+dP+dQ+dR+dS+dT+dU+dV+dW+dX+dY",
  "+dZlEFT CURLY BRACKETpPARENTHESISpSQUARE BRACKETpWHITE PARENTHESISmSS-THAN SIGNlOW LINEkMACRON",
  "kNOT SIGNlUMBER SIGNkPERCENT SIGNlLUS SIGNlOUND SIGNkQUESTION MARKmOTATION MARKkREVERSE SOLIDUS",
  "lIGHT CURLY BRACKETqPARENTHESISqSQUARE BRACKETqWHITE PARENTHESISkSEMICOLONlOLIDUSkTILDE",
  "kVERTICAL LINEkWON SIGNkYEN SIGNcNCTION APPLICATIONdERAL URNcSEbVS1d2d3d4"]

def namesG : List String := [
  "aGAME DIEcRLICbEARe WITH HANDLESjOUT HUBcM STONEdINIcNIEcOMETRIC PROPORTIONjALLY EQUAL TOrIVALENT TO",
  "dRGIAN CAPITAL LETTER AENzNyBANyCANzHAR+aINzILyDONyENyGANzHANyHAE+aRzEzIEzOEyINyJHANzILyKANzHARyLAS",
  "yMANyNARyONyPARzHARyQARyRAEySANzHINyTAN+aRyUNyVINyWEyXANyYNyZENzHARjLETTER AENrINrNqBANqCANrHARsIN",
  "rILqDONqELIFIrNqFIqGANrHANqHAEsRtD SIGNrErIErOEqINqJHANrILqKANrHARqLABIAL SIGNsSqMANqNARqONqPARrHAR",
  "qQARqRAEqSANrHINqTANsRrURNED GANqUNqVINqWEqXANqYNqZENrHARjMTAVRULI CAPITAL LETTER AEN+iIN+iN+hBAN",
  "+hCAN+iHAR+jIN+iIL+hDON+hELIFI+iN+hFI+hGAN+iHAN+hHAE+jR+kD SIGN+iE+iIE+iOE+hIN+hJHAN+iIL+hKAN+iHAR",
  "+hLABIAL SIGN+jS+hMAN+hNAR+hON+hPAR+iHAR+hQAR+hRAE+hSAN+iHIN+hTAN+jR+iURNED GAN+hUN+hVIN+hWE+hXAN",
  "+hYN+hZEN+iHARjPARAGRAPH SEPARATORjSMALL LETTER AENxNwBANwCANxHARyINxILwDONwENwGANxHANwHAEyRxExIExOE",
  "wINwJHANxILwKANxHARwLASwMANwNARwONwPARxHARwQARwRAEwSANxHINwTANyRwUNwVINwWEwXANwYNwZENxHAR",
  "cRMAN PENNY SIGNcTA MARKbHOSTbIMEL SYMBOLcRAFFE FACEdLeS SYMBOLbLAGOLITIC CAPITAL LETTER AZU",
  "+aBIG YUS+bUKY+aCAUDATE CHRIVI+bHRIVI+aDJERVI+bOBRO+bZELO+aFITA+bRITU+aGLAGOLI+aHERU+aI+bNITIAL IZHE",
  "+bOTATED BIG YUS+iSMALL YUS+bZHE+dITSA+aKAKO+aLATINATE MYSLITE+bJUDIJE+aMYSLITE+aNASHI+aONU+bTU+aPE",
  "+bOKOJI+aRITSI+aSHA+cTA+ePIC+bLOVO+bMALL YUS+j WITH TAIL+bPIDERY HA+aTROKUTASTI A+bSI+bVRIDO+aUKU",
  "+aVEDE+aYATI+bERI+dU+cSTU+bO+bU+aZEMLJA+bHIVETElSMALL LETTER AZUyBIG YUSzUKYyCAUDATE CHRIVIzHRIVI",
  "yDJERVIzOBROzZELOyFITAzRITUyGLAGOLIyHERUyIzNITIAL IZHEzOTATED BIG YUS+gSMALL YUSzZHE+bITSAyKAKO",
  "yLATINATE MYSLITEzJUDIJEyMYSLITEyNASHIyONUzTUyPEzOKOJIyRITSIySHA+aTA+cPICzLOVOzMALL YUS+h WITH TAIL",
  "zPIDERY HAyTROKUTASTI AzSIzVRIDOyUKUyVEDEyYATIzERI+bU+aSTUzOzUyZEMLJAzHIVETEdSS OF MILKcEICH STARK",
  "cOBE WITH MERIDIANSdVESdWING STARbOAL NETdTcGGLEScLFERcRILLAcTHIC LETTER AHSApIHVUSoBAIRKANoDAGSoEIS",
  "oFAIHUoGIBAoHAGLpWAIRoIGGWSpUJAoJERoKUSMAoLAGUSoMANNAoNAUTHSpINE HUNDREDsTYoOTHALoPAIRTHRAoQAIRTHRA",
  "oRAIDAoSAUILoTEIWSpHIUTHoURUSoWINJAbRADUATION CAPdNTHA AU LENGTH MARKiLETTER AqAqIqUpBAqHApCAqHApDA",
  "qDArHAqHApEEpGAqHApHApIqIpJAqHApKAqHApLAqLApMApNAqGAqNAqYApOOpPAqHApRApSAqHAqSApTAqHAqTArHApUqUpVA",
  "qEDIC ANUSVARAvDOUBLE ANUSVARAqOCALIC LyLxRyRpYAiOMiSIGN ANUSVARAoVAGRAHAnCANDRABINDU",
  "oOMBINING ANUSVARA ABOVEnNUKTAnPLUTAnVIRAMApSARGAiVOWEL SIGN AAuIuUtEEtIuItOOtUuUtVOCALIC L+cL+bR+cR",
  "dPESdVE ACCENTcEATER-THAN ABOVE DOUBLE-LINE EQUAL ABOVE LESS-THANtLESS-THAN ABOVE DOUBLE-LINE EQUAL",
  "tRIGHTWARDS ARROWtSIMILAR ABOVE LESS-THAN+bOR EQUALuLANTED EQUAL ABOVE LESS-THAN ABOVE SLANTED EQUAL",
  "oND NOT APPROXIMATErSINGLE-LINE NOT EQUAL TOnBESIDE LESS-THANoUT NOT EQUAL TOyIVALENT TO",
  "nCLOSED BY CURVE+c ABOVE SLANTED EQUALnEQUAL TO OR LESS-THANnOR APPROXIMATEqEQUAL TOtIVALENT TO",
  "qLESS-THANqSLANTED EQUAL TO+g WITH DOT ABOVE+v LEFT+qINSIDEoVER EQUAL TOrLAPPING LESS-THANnSIGN",
  "nWITH CIRCLE INSIDEsDOTsQUESTION MARK ABOVEdEK ACROPHONIC ATTIC FIFTY+c STATERS+dTALENTS+eHOUSAND",
  "+l STATERSzVE+b HUNDRED+j STATERS+kTALENTS+cSTATERS+cTALENTS+dHOUSAND+k TALENTSxONE DRACHMA+bHALF",
  "+cUNDRED STATERS+jTALENTS+bQUARTER+bTHOUSAND STATERS+kTALENTSxTEN MNAS+bSTATERS+bTALENTS",
  "+cHOUSAND STATERSrCARYSTIAN FIVE HUNDREDsYRENAIC TWO DRACHMASrDELPHIC FIVE MNAS",
  "rEPIDAUREAN FIVE HUNDRED+cTWO+f DRACHMASrHERAEUM ONE PLETHRONuMIONIAN FIFTY+cONE+cTENrMESSENIAN TEN",
  "rNAXIAN FIVE HUNDREDrSTRATIAN FIFTY MNASrTHESPIAN FIFTY+cVE HUNDRED+fTHOUSAND+aONE+d HUNDRED",
  "+eTHOUSAND+aTEN+bHIRTY+cREE HUNDRED+bWOsROEZENIAN FIFTY+h ALTERNATE FORM+eVE+g HUNDRED+cTEN",
  "+f ALTERNATE FORMhNO TELEIAhROURA SIGNiTABE SIGNgBETA SYMBOLgCAPITAL DOTTED LUNATE SIGMA SYMBOL",
  "oKAI SYMBOLoLETTER ALPHA+a WITH DASIA+l AND OXIA+u AND PROSGEGRAMMENI+qPERISPOMENI",
  "++b AND PROSGEGRAMMENI+rROSGEGRAMMENI+qVARIA+v AND PROSGEGRAMMENI+gMACRON+gOXIA+gPROSGEGRAMMENI",
  "+hSILI+l AND OXIA+u AND PROSGEGRAMMENI+qPERISPOMENI++b AND PROSGEGRAMMENI+rROSGEGRAMMENI+qVARIA",
  "+v AND PROSGEGRAMMENI+gTONOS+gVARIA+hRACHYwRCHAIC SAMPIvBETAvCHIvDELTAvEPSILON+c WITH DASIA",
  "+n AND OXIA+sVARIA+iOXIA+iPSILI+n AND OXIA+sVARIA+iTONOS+iVARIAwTAy WITH DASIA+j AND OXIA",
  "+s AND PROSGEGRAMMENI+oPERISPOMENI+z AND PROSGEGRAMMENI+pROSGEGRAMMENI+oVARIA+t AND PROSGEGRAMMENI",
  "+eOXIA+ePROSGEGRAMMENI+fSILI+j AND OXIA+s AND PROSGEGRAMMENI+oPERISPOMENI+z AND PROSGEGRAMMENI",
  "+pROSGEGRAMMENI+oVARIA+t AND PROSGEGRAMMENI+eTONOS+eVARIAvGAMMAvHETAvIOTAz WITH DASIA+k AND OXIA",
  "+pPERISPOMENI+pVARIA+gIALYTIKA+fMACRON+fOXIA+fPSILI+k AND OXIA+pPERISPOMENI+pVARIA+fTONOS+fVARIA",
  "+gRACHYvKAPPAvLAMDAvMUvNUvOMEGA+a WITH DASIA+l AND OXIA+u AND PROSGEGRAMMENI+qPERISPOMENI",
  "++b AND PROSGEGRAMMENI+rROSGEGRAMMENI+qVARIA+v AND PROSGEGRAMMENI+gOXIA+gPROSGEGRAMMENI+hSILI",
  "+l AND OXIA+u AND PROSGEGRAMMENI+qPERISPOMENI++b AND PROSGEGRAMMENI+rROSGEGRAMMENI+qVARIA",
  "+v AND PROSGEGRAMMENI+gTONOS+gVARIAxICRON+c WITH DASIA+n AND OXIA+sVARIA+iOXIA+iPSILI+n AND OXIA",
  "+sVARIA+iTONOS+iVARIAvPAMPHYLIAN DIGAMMAwHIwIwSIvRHOy WITH DASIAvSANwHOwIGMAvTAUwHETAvUPSILON",
  "+c WITH DASIA+n AND OXIA+sPERISPOMENI+sVARIA+jIALYTIKA+iMACRON+iOXIA+iTONOS+iVARIA+jRACHYvXIvYOT",
  "vZETApUNATE SIGMA SYMBOLoREVERSED DOTTED LUNATE SIGMA SYMBOLxLUNATE SIGMA SYMBOLoTHETA SYMBOLgDASIA",
  "l AND OXIAqPERISPOMENIqVARIAhIALYTIKA AND OXIAuPERISPOMENIuVARIAqTONOShRACHMA SIGNgFIVE OBOLS SIGN",
  "hOUR OBOLS SIGNgGRAMMA SIGNgINDICTION SIGNiSTRUMENTAL NOTATION SYMBOL-1+k1+k2+k3+k4+k7+k8+k9+j2+k3",
  "+k4+k5+k6+k7+k9+j30+k2+k6+k7+k8+k9+j4+k0+k2+k3+k5+k7+k8+k9+j5+k0+k1+k2+k3+k4+j7+j8gKAI SYMBOL",
  "iPPA SYMBOLhORONIShYATHOS BASE SIGNgLETTER ARCHAIC KOPPAnDIGAMMAnKOPPAnSAMPIoMALL CAPITAL GAMMA",
  "+bLAMDA+bOMEGA+bPI+cSI+bRHOoTIGMAnYOThITRA SIGNhOWER NUMERAL SIGNhUNATE EPSILON SYMBOLnSIGMA SYMBOL",
  "gMETRETES SIGNhUSICAL LEIMMAgNUMERAL SIGNgOBOL SIGNhNE HALF SIGNt ALTERNATE FORMkQUARTER SIGN",
  "hUNKIA SIGNhXIAgPERISPOMENIhHI SYMBOLhI SYMBOLhROSGEGRAMMENIhSILIl AND OXIAqPERISPOMENIqVARIA",
  "gQUESTION MARKgREVERSED LUNATE EPSILON SYMBOLhHO SYMBOLkWITH STROKE SYMBOLgSINUSOID SIGN",
  "hMALL DOTTED LUNATE SIGMA SYMBOLmLETTER ALPHAy WITH DASIA+j AND OXIA+s AND YPOGEGRAMMENI",
  "+oPERISPOMENI+z AND YPOGEGRAMMENI+oVARIA+t AND YPOGEGRAMMENI+oYPOGEGRAMMENI+eMACRON+eOXIA",
  "+i AND YPOGEGRAMMENI+ePERISPOMENI+p AND YPOGEGRAMMENI+fSILI+j AND OXIA+s AND YPOGEGRAMMENI",
  "+oPERISPOMENI+z AND YPOGEGRAMMENI+oVARIA+t AND YPOGEGRAMMENI+oYPOGEGRAMMENI+eTONOS+eVARIA",
  "+j AND YPOGEGRAMMENI+fRACHY+eYPOGEGRAMMENIuRCHAIC KOPPA+bSAMPItBETAtCHItDELTAuIGAMMAtEPSILON",
  "+a WITH DASIA+l AND OXIA+qVARIA+gOXIA+gPSILI+l AND OXIA+qVARIA+gTONOS+gVARIAuTAw WITH DASIA",
  "+h AND OXIA+q AND YPOGEGRAMMENI+mPERISPOMENI+x AND YPOGEGRAMMENI+mVARIA+r AND YPOGEGRAMMENI",
  "+mYPOGEGRAMMENI+cOXIA+g AND YPOGEGRAMMENI+cPERISPOMENI+n AND YPOGEGRAMMENI+dSILI+h AND OXIA",
  "+q AND YPOGEGRAMMENI+mPERISPOMENI+x AND YPOGEGRAMMENI+mVARIA+r AND YPOGEGRAMMENI+mYPOGEGRAMMENI",
  "+cTONOS+cVARIA+h AND YPOGEGRAMMENI+cYPOGEGRAMMENItFINAL SIGMAtGAMMAtHETAtIOTAx WITH DASIA+i AND OXIA",
  "+nPERISPOMENI+nVARIA+eIALYTIKA+m AND OXIA+rPERISPOMENI+rTONOS+rVARIA+dMACRON+dOXIA+dPERISPOMENI",
  "+eSILI+i AND OXIA+nPERISPOMENI+nVARIA+dTONOS+dVARIA+eRACHYtKAPPAuOPPAtLAMDAtMUtNUtOMEGAy WITH DASIA",
  "+j AND OXIA+s AND YPOGEGRAMMENI+oPERISPOMENI+z AND YPOGEGRAMMENI+oVARIA+t AND YPOGEGRAMMENI",
  "+oYPOGEGRAMMENI+eOXIA+i AND YPOGEGRAMMENI+ePERISPOMENI+p AND YPOGEGRAMMENI+fSILI+j AND OXIA",
  "+s AND YPOGEGRAMMENI+oPERISPOMENI+z AND YPOGEGRAMMENI+oVARIA+t AND YPOGEGRAMMENI+oYPOGEGRAMMENI",
  "+eTONOS+eVARIA+j AND YPOGEGRAMMENI+eYPOGEGRAMMENIvICRON+a WITH DASIA+l AND OXIA+qVARIA+gOXIA+gPSILI",
  "+l AND OXIA+qVARIA+gTONOS+gVARIAtPAMPHYLIAN DIGAMMAuHIuIuSItRHOw WITH DASIA+cPSILItSAMPIvNuHOuIGMA",
  "uTIGMAtTAUuHETAtUPSILON+a WITH DASIA+l AND OXIA+qPERISPOMENI+qVARIA+hIALYTIKA+p AND OXIA",
  "+uPERISPOMENI+uTONOS+uVARIA+gMACRON+gOXIA+gPERISPOMENI+hSILI+l AND OXIA+qPERISPOMENI+qVARIA+gTONOS",
  "+gVARIA+hRACHYtXItZETAmREVERSED DOTTED LUNATE SIGMA SYMBOLvLUNATE SIGMA SYMBOL",
  "hUBSCRIPT SMALL LETTER BETA+dCHI+dGAMMA+dPHI+dRHOhYMBOL TAU RHOgTALENT SIGNhHETA SYMBOL",
  "iREE OBOLS SIGNmQUARTERS SIGNhONOShRYBLION BASE SIGNhWO OBOLS SIGNkTHIRDS SIGN",
  "gUPSILON WITH ACUTE AND HOOK SYMBOLtDIAERESIS AND HOOK SYMBOLtHOOK SYMBOLgVARIA",
  "hOCAL NOTATION SYMBOL-1+d0+d1+d2+d3+d4+d5+d6+d7+d8+d9+c2+d0+d1+d2+d3+d4+c3+c4+c5+d0+d1+d2+d3+d4+c6",
  "+c7+c8+c9gXESTES SIGNgYEAR SIGNhPOGEGRAMMENIgZERO SIGNeN APPLEgBOOKgHEARTgSALADcIMACING FACE",
  "dNNING CAT FACE WITH SMILING EYESjFACEn WITH ONE LARGE AND ONE SMALL EYEtSMILING EYESuTAR EYES",
  "cOUP MARKgSEPARATORdWING HEARTbSbUARANI SIGNeDSMANcIDE DOGdTARcJARATI ABBREVIATION SIGNjDIGIT EIGHT",
  "pFIVEqOURpNINEpONEpSEVENqIXpTHREEqWOpZEROjLETTER ArArIrUqBArHAqCArHAqDArDAsHArHAqEqGArHAqHAqIrIqJA",
  "rHAqKArHAqLArLAqMAqNArGArNArYAqOqPArHAqRAqSArHArSAqTArHArTAsHAqUrUqVArOCALIC LzLyRzRqYAqZHAjOM",
  "jRUPEE SIGNjSIGN ANUSVARApVAGRAHAoCANDRABINDUpIRCLE NUKTA ABOVEoMADDAHoNUKTAoSHADDApUKUN",
  "oTHREE-DOT NUKTA ABOVEpWO-CIRCLE NUKTA ABOVEoVIRAMAqSARGAjVOWEL CANDRA EwOpSIGN AAvIvUuCANDRA E+bOuE",
  "uIvIuOuUvUuVOCALIC L+dL+cR+dRcNJALA GONDI DIGIT EIGHTuFIVEvOURuNINEuONEuSEVENvIXuTHREEvWOuZERO",
  "oLETTER AwAwIwUvBAwHAvCAwHAvDAwDAxHAwHAvEEvGAwHAvHAvIwIvJAwHAvKAwHAvLAwLAvMAvNAwGAvOOvPAwHAvRAvSAvTA",
  "wHAwTAxHAvUwUvVAvYAoOMoSIGN ANUSVARAtVISARGAoVIRAMApOWEL SIGN AA+aI+aUzEEzI+aIzOOzU+aU",
  "cRMUKHI ABBREVIATION SIGNkDDAKjDIGIT EIGHTpFIVEqOURpNINEpONEpSEVENqIXpTHREEqWOpZEROjEK ONKARjIRI",
  "jLETTER ArArIrUqBArHAqCArHAqDArDAsHArHAqEEqFAqGArHAsHAqHAqIrIqJArHAqKArHAsHAqLArLAqMAqNArGArNArYAqOO",
  "qPArHAqRArRAqSArHAqTArHArTAsHAqUrUqVAqYAqZAjSIGN ADAK BINDIoBINDIoNUKTAoUDAAToVIRAMAqSARGAoYAKASH",
  "jTIPPIjURAjVOWEL SIGN AAvIvUuEEuIvIuOOuUvU"]

end TreeLint.Text.CharacterName
