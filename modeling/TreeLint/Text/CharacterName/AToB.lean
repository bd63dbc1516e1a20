/-
  TreeLint/Text/CharacterName/AToB.lean
  =====================================
  **Names of characters that begin with A to B.**  The tables are those of Unicode 14.
-/

namespace TreeLint.Text.CharacterName

def namesA : List String := [
  "aABACUSbC CURRENTcCORDIONeUNT OFcKdNOWLEDGEcTIVATE ARABIC FORM SHAPINGjSYMMETRIC SWAPPINGcUTE ACCENT",
  "hNGLEbDDRESSED TO THE SUBJECTcHESIVE BANDAGEcI SHAKTIcLAM ALIF LENGTHENERgCAPITAL LETTER ALIFvBAwHE",
  "vCHIvDAALIwHAvEvFAvGAwBEvHAvIvJIIMvKAFwHAwPOvLAAMvMIIMvNHAwUNwYAvOvPEvQAAFvRAvSHAwINNYIIYHEvTUvUvVA",
  "vWAWvYAwHEvZALhONSONANT MODIFIERgDIGIT EIGHTmFIVEnOURmNINEmONEmSEVENnIXmTHREEnWOmZERO",
  "gGEMINATE CONSONANT MODIFIERnION MARKgHAMZAgINITIAL EXCLAMATION MARKoQUESTION MARKgNASALIZATION MARK",
  "hUKTAgSMALL LETTER ALIFtBAuHEtCHItDAALIuHAtEtFAtGAuBEtHAtItJIIMtKAFuHAuPOtLAAMtMIIMtNHAuUNuYAtOtPE",
  "tQAAFtRAtSHAuINNYIIYHEtTUtUtVAtWAWtYAuHEtZALgVOWEL LENGTHENERcMETOSdISSION TICKETScULT",
  "bEGEAN CHECK MARKhDRY MEASURE FIRST SUBUNIThLIQUID MEASURE FIRST SUBUNIThMEASURE SECOND SUBUNIT",
  "pTHIRD SUBUNIThNUMBER EIGHTt HUNDREDuTHOUSANDtYu THOUSANDoFIFTYt THOUSANDqVEs HUNDREDtTHOUSANDpORTY",
  "t THOUSANDqURs HUNDREDtTHOUSANDoNINEs HUNDREDtTHOUSANDsTYu THOUSANDoONEr HUNDREDsTHOUSANDoSEVEN",
  "t HUNDREDuTHOUSANDtTYv THOUSANDpIXr HUNDREDsTHOUSANDrTYt THOUSANDoTENr THOUSANDpHIRTYu THOUSANDqREE",
  "t HUNDREDuTHOUSANDpWENTYu THOUSANDqOr HUNDREDsTHOUSANDhWEIGHT BASE UNIToFIRST SUBUNITpOURTH SUBUNIT",
  "oSECOND SUBUNIToTHIRD SUBUNITiORD SEPARATOR DOTwLINEcRIAL TRAMWAYbFGHANI SIGN",
  "bHOM CONSONANT SIGN MEDIAL LA+cIGATING RA+bRAfDIGIT EIGHTlFIVEmOURlNINElONElSEVENmIXlTHREEmWOlZERO",
  "fLETTER AnLTERNATE BAwGAwTAmBAnHAmCAnHAmDAnDAoHAnHAmGAnHAmHAmJAnHAmKAnHAmLAnLAmMAmNAnGAnNAnYAmPAnHA",
  "mRAmSAmTAnHAnTAoHAfNUMBER TENnWENTYfSIGN KILLERkRULAIkSECTIONlMALL SECTIONgYMBOL VIfVOWEL SIGN ArArI",
  "rMrWqEqIrIqOqUrUbIRPLANEi ARRIVINGjDEPARTUREbKTIESELSKABbLARM CLOCKcCHEMICAL SYMBOL FOR AIRxLEMBIC",
  "yKALI+c-2yUMxMALGAMxNTIMONY ORExQUA REGIA+g-2+bVITAE+g-2+aFORTISxRSENICxSHESxURIPIGMENTwBATH OF MARY",
  "+eVAPOURSxISMUTH ORExLACK SULFURxORAX+b-2+c3xRICKwCADUCEUSyLXyPUT MORTUUMxINNABARxOPPER ANTIMONIATE",
  "+dORExROCUS OF COPPER+m-2+gIRONyUCIBLE+e-2+f3+f4+f5wDAY-NIGHTxISSOLVE+e-2zTILLwEARTHwFIREwGOLDxUM",
  "wHALF DRAM+bOUNCExORSE DUNGyURwIRON ORE+e-2+a-COPPER OREwLEAD ORExODESTONEwMARCASITE",
  "xERCURY SUBLIMATE+n-2+o3xONTHwNIGHTyTREwOILwPHILOSOPHERS SULFURxOT ASHESyWDER+cED BRICKxRECIPITATE",
  "xURIFYyTREFACTIONwQUICK LIMEzNTESSENCEwREALGAR+d-2yGULUS+d OF ANTIMONY+p-2+hIRON+d-2+e3+e4yTORT",
  "xOCK SALT+f-2wSAL-AMMONIACzT+a OF ANTIMONY+eCOPPER ANTIMONIATExCEPTER OF JOVExILVERxOAPxPIRIT",
  "xTARRED TRIDENTyRATUM SUPER STRATUM+r-2xUBLIMATE OF ANTIMONY+jCOPPER+jSALT OF ANTIMONY+rCOPPER+eION",
  "yLFURwTARTAR+c-2xIN OREzCTURExRIDENTxUTTYwURINEwVERDIGRISxINEGAR+d OF ANTIMONY+d-2+e3yTRIOL+d-2",
  "wWATERyXcEF SYMBOLdMBICdRTcIEN MONSTERcL AROUND-PROFILEeEQUAL TOcMdOST EQUAL OR EQUAL TOnTO",
  "p WITH CIRCUMFLEX ACCENTcTERNATE ONE-WAY LEFT WAY TRAFFICiIVE KEY SYMBOLbMALGAMATION OR COPRODUCT",
  "cBULANCEcERICAN FOOTBALLcPERSANDdHORAbNATOLIAN HIEROGLYPH A001y2y3y4y5y6y7y8y9x10zAy1y2y3y4y5y6y7y8",
  "y9x20y1y2y3y4y5y6zAy7y8y9x30y1y2y3y4y5y6y7y8y9zAx40y1zAy2y3y4y5zAy6zAzBy7y8y9x50y1y2y3y4y5y6y7y8y9",
  "x60y1y2y3y4y5y6zAzBzCy7y8y9x70y1y2y3y4y5y6y7y8y9x80y1y2y3y4y5y6y7y8y9x90y1y2y3y4y5y6y7zAy8zAy9w100zA",
  "y1zAy2zAy3y4zAzBzCy5zAzBy6y7zAzBzCy8y9x10zAzBy1y2y3y4y5zAy6y7y8y9x20y1y2y3y4y5zAy6y7y8y9x30y1y2y3y4",
  "y5zAy6y7y8y9x40y1y2y3y4y5y6y7y8y9x50y1y2y3y4y5y6y7y8y9x60y1y2y3y4y5y6y7y8y9x70y1y2y3y4y5y6y7y8y9x80",
  "y1y2y3y4y5y6y7y8y9x90y1y2y3y4y5y6y7y8y9w200y1y2zAzBy3y4y5y6y7zAy8y9zAx10y1y2y3y4y5zAy6zAy7y8y9x20y1",
  "y2y3y4y5y6y7zAy8y9x30y1y2y3y4y5y6y7y8y9x40y1y2y3y4y5y6y7y8y9x50y1y2y3y4y5y6y7y8y9x60y1y2y3y4y5y6y7zA",
  "y8y9x70y1y2y3y4y5y6y7y8y9x80y1y2y3y4y5y6y7y8y9zAx90y1y2y3y4zAy5y6y7y8y9zAw300y1y2y3y4y5y6y7y8y9zAx10",
  "y1y2y3y4y5y6y7y8y9x20y1y2y3y4y5y6y7y8y9zAx30y1y2AzBzCy3y4y5y6zAzBzCy7y8y9x40y1y2y3y4y5y6y7y8y9x50y1",
  "y2y3y4y5y6y7y8y9zAx60y1y2y3y4zAy5y6y7y8zAy9x70y1zAy2y3y4y5y6y7y8y9x80y1zAy2y3 RA OR RIzAy4y5y6zAy7y8",
  "y9x90y1y2y3 EIGHTy4y5y6y7y8y9w400y1y2y3y4y5y6y7y8y9x10 BEGIN LOGOGRAM MARKzA END LOGOGRAM MARKy1y2y3",
  "y4y5y6y7y8y9x20y1y2y3y4y5y6y7y8y9x30y1y2y3y4y5y6y7y8y9x40y1y2y3y4y5y6y7y8y9x50zAy1y2y3y4y5y6y7zAy8y9",
  "x60y1y2y3y4y5y6y7y8y9x70y1y2y3y4y5y6y7y8y9x80y1y2y3y4y5y6y7y8y9x90y1y2y3y4y5y6y7w501y2y3y4y5y6y7y8y9",
  "x10y1y2y3y4y5y6y7y8y9x20y1y2y3y4y5y6y7y8y9x30fMICAL HEARTcCHORcD WITH DOTcGER SYMBOLdLE",
  "f WITH S INSIDElUNDERBARdRY FACEdSTROM SIGNdUISHED FACEcKHcTdENNA WITH BARS",
  "dICLOCKWISE CLOSED CIRCLE ARROWpONTOUR INTEGRALoDOWNWARDS AND UPWARDS OPEN CIRCLE ARROWS",
  "oGAPPED CIRCLE ARROWoINTEGRATIONoOPEN CIRCLE ARROWoTOP SEMICIRCLE ARROW",
  "pRIANGLE-HEADED BOTTOM U-SHAPED ARROW+eLEFT U-SHAPED ARROW+eOPEN CIRCLE ARROW+eRIGHT U-SHAPED ARROW",
  "+eTOP U-SHAPED ARROWbPCcL FUNCTIONAL SYMBOL ALPHA+b UNDERBARwBACKSLASH BARwCIRCLE BACKSLASH",
  "+dDIAERESIS+dJOT+dSTAR+fILE+dUNDERBARxOMMA BARwDEL DIAERESIS+aSTILE+aTILDEzTA STILE+cUNDERBAR",
  "xIAMOND UNDERBARxOWN CARET TILDE+bSHOE STILE+bTACK JOT+gUNDERBAR+aWARDS VANEwEPSILON UNDERBAR",
  "wGREATER-THAN DIAERESISwI-BEAMxOTA+a UNDERBARwJOT DIAERESIS+aUNDERBARwLEFT SHOE STILE+aWARDS VANE",
  "wOMEGA+b UNDERBARwQUAD+a BACKSLASH+bCIRCLE+cOLON+bDEL+eTA+cIAMOND+dVIDE+cOWN CARET+fWARDS ARROW",
  "+bEQUAL+bGREATER-THAN+bJOT+bLEFTWARDS ARROW+dSS-THAN+bNOT EQUAL+bQUESTION+bRIGHTWARDS ARROW+bSLASH",
  "+bUP CARET+dWARDS ARROWyOTE QUAD+cUNDERBARwRHOxIGHTWARDS VANEwSEMICOLON UNDERBARxLASH BARxQUISH QUAD",
  "xTAR DIAERESISyILE TILDEwTILDE DIAERESISwUP CARET TILDEzSHOE JOTzTACK DIAERESIS+eJOT+eOVERBAR",
  "yWARDS VANEwZILDEcOLLONdSTROPHEcPLICATION PROGRAM COMMANDdROACHES THE LIMIT",
  "fXIMATELY BUT NOT ACTUALLY EQUAL TOoEQUAL OR EQUAL TOuTOw OR THE IMAGE OFbQUARIUS",
  "bRABIC BASELINE ROUND DOThCOMMAiURLY DAMMAsTANnFATHAsTANnKASRAsTANhDAMMAm ISOLATED FORMnMEDIAL FORM",
  "nWITH DOTmTANp ISOLATED FORMjTE SEPARATORiECIMAL SEPARATORiISPUTED END OF AYAH",
  "iOUBLE RIGHT ARROWHEAD ABOVE+j WITH DOTnD MADDAhEMPTY CENTRE HIGH STOPuLOW STOPiND OF AYAHoTEXT MARK",
  "hFATHAm ISOLATED FORMnMEDIAL FORMnWITH DOT ABOVEsRINGsTWO DOTSmTANp ISOLATED FORMiIVE POINTED STAR",
  "iOOTNOTE MARKERiULL STOPhHALF MADDA OVER MADDAjMZA ABOVEnBELOWhINVERTED DAMMAhKASRAm ISOLATED FORM",
  "nMEDIAL FORMnWITH DOT BELOWmTANp ISOLATED FORMhLARGE CIRCLE BELOWnROUND DOT ABOVExBELOW",
  "xINSIDE CIRCLE BELOWiEFT ARROWHEAD ABOVEwBELOWjTTER AEpFRICAN FEHwNOONwQAFz WITH THREE DOTS ABOVEpIN",
  "r FINAL FORMsINITIAL FORMtSOLATED FORMsMEDIAL FORMsWITH THREE DOTS ABOVE+iBELOW",
  "+iPOINTING DOWNWARDS ABOVEyWO DOTS ABOVE+gVERTICALLY ABOVEpLEFs FINAL FORMtISOLATED FORMtMAKSURA",
  "+a FINAL FORM+bISOLATED FORMtWASLAy FINAL FORMzISOLATED FORMuITH ATTACHED BOTTOM RIGHT KASRA",
  "+z AND DOT ABOVE++eLEFT RING+hFATHA+hKASRA+hLEFT HAMZA+mROUND DOT+hRIGHT HAMZA+nROUND DOT",
  "+iOUND DOT ABOVE+rBELOW+hTOP RIGHT FATHA+w AND DOT ABOVE++bLEFT RINGyDOT ABOVE",
  "yEXTENDED ARABIC-INDIC DIGIT THREE ABOVE++bWO ABOVEyHAMZA ABOVE+j FINAL FORM+kISOLATED FORM+eBELOW",
  "+j FINAL FORM+kISOLATED FORMyLEFT MIDDLE STROKEyMADDA ABOVE+j FINAL FORM+kISOLATED FORM",
  "yRIGHT MIDDLE STROKE+r AND DOT ABOVE+wLEFT RINGyWAVY HAMZA ABOVE+jBELOWoBEEHs FINAL FORM",
  "tINITIAL FORMuSOLATED FORMtMEDIAL FORMqHr FINAL FORMsINITIAL FORMtSOLATED FORMsMEDIAL FORM",
  "sWITH DOT BELOW AND THREE DOTS ABOVExHAMZA ABOVExINVERTED SMALL V BELOWxSMALL MEEM ABOVE+dV+e BELOW",
  "xTHREE DOTS HORIZONTALLY BELOW+iPOINTING UPWARDS BELOW++e AND TWO DOTS ABOVE",
  "yWO DOTS BELOW AND DOT ABOVErEHt FINAL FORMuINITIAL FORMvSOLATED FORMuMEDIAL FORMoDADr FINAL FORM",
  "sINITIAL FORMtSOLATED FORMsMEDIAL FORMsWITH DOT BELOWqHALt FINAL FORMuISOLATED FORMqLr FINAL FORM",
  "sISOLATED FORMsWITH DOT BELOW+g AND SMALL TAHxFOUR DOTS ABOVExINVERTED SMALL V BELOW+gVxRING",
  "xTHREE DOTS ABOVE DOWNWARDS+iBELOWyWO DOTS VERTICALLY BELOW AND SMALL TAHpDAHALu FINAL FORM",
  "vISOLATED FORMrLs FINAL FORMtISOLATED FORMpOTLESS BEHwFEHwQAFpULr FINAL FORMsISOLATED FORMpYEH",
  "s FINAL FORMtINITIAL FORMuSOLATED FORMtMEDIAL FORMoEp FINAL FORMqINITIAL FORMrSOLATED FORM",
  "qMEDIAL FORMoFARSI YEHx FINAL FORMyINITIAL FORMzSOLATED FORMyMEDIAL FORM",
  "yWITH EXTENDED ARABIC-INDIC DIGIT FOUR BELOW++fTHREE ABOVE++gWO ABOVE+dINVERTED V+dTHREE DOTS ABOVE",
  "+eWO DOTS ABOVEpEHr FINAL FORMsINITIAL FORMtSOLATED FORMsMEDIAL FORMsWITH DOT BELOW",
  "+g AND THREE DOTS ABOVE+bMOVED BELOWxTHREE DOTS BELOW+iPOINTING UPWARDS BELOWyWO DOTS BELOWoGAF",
  "r FINAL FORMsINITIAL FORMtSOLATED FORMsMEDIAL FORMsWITH INVERTED STROKExRINGxTHREE DOTS ABOVE",
  "yWO DOTS BELOWpHAINt FINAL FORMuINITIAL FORMvSOLATED FORMuMEDIAL FORMuWITH DOT BELOW",
  "zTHREE DOTS ABOVEpRAFpUEHs FINAL FORMtINITIAL FORMuSOLATED FORMtMEDIAL FORMoHAHr FINAL FORM",
  "sINITIAL FORMtSOLATED FORMsMEDIAL FORMsWITH EXTENDED ARABIC-INDIC DIGIT FOUR BELOWxHAMZA ABOVE",
  "xINVERTED SMALL V BELOWxSMALL ARABIC LETTER TAH ABOVE+wND TWO DOTS+vBELOWxTHREE DOTS ABOVE",
  "+iPOINTING UPWARDS BELOWyWO DOTS ABOVE+gVERTICAL ABOVEqMZAt ISOLATED FORMpEHr DOACHASHMEE",
  "+d FINAL FORM+eINITIAL FORM+fSOLATED FORM+eMEDIAL FORMsFINAL FORMsGOALw FINAL FORMxINITIAL FORM",
  "ySOLATED FORMxMEDIAL FORMxWITH HAMZA ABOVEsINITIAL FORMtSOLATED FORMsMEDIAL FORMsWITH INVERTED V",
  "xYEH ABOVE+g FINAL FORM+hISOLATED FORMpIGH HAMZAy ALEFzWAWzYEHoJEEMs FINAL FORMtINITIAL FORM",
  "uSOLATED FORMtMEDIAL FORMtWITH THREE DOTS ABOVE+jBELOWzWO DOTS ABOVEqHr FINAL FORMsISOLATED FORMoKAF",
  "r FINAL FORMsINITIAL FORMtSOLATED FORMsMEDIAL FORMsWITH DOT ABOVE+bBELOWxRINGxTHREE DOTS BELOW",
  "yWO DOTS ABOVEqSHMIRI YEHpEHEHt FINAL FORMuINITIAL FORMvSOLATED FORMuMEDIAL FORMuWITH DOT ABOVE",
  "zSMALL VzTHREE DOTS ABOVE+kBELOW+kPOINTING UPWARDS BELOW+aWO DOTS ABOVE+iVERTICALLY BELOWpHAH",
  "s FINAL FORMtINITIAL FORMuSOLATED FORMtMEDIAL FORMpIRGHIZ OEy FINAL FORMzISOLATED FORMwYU",
  "y FINAL FORMzISOLATED FORMoLAMr FINAL FORMsINITIAL FORMtSOLATED FORMsMEDIAL FORMsWITH BARxDOT ABOVE",
  "zUBLE BARxSMALL ARABIC LETTER TAH ABOVE+dVxTHREE DOTS ABOVE+iBELOWpOW ALEFoMARKpEEMs FINAL FORM",
  "tINITIAL FORMuSOLATED FORMtMEDIAL FORMtWITH DOT ABOVE+cBELOWyTHREE DOTS ABOVEoNGq FINAL FORM",
  "rINITIAL FORMsSOLATED FORMrMEDIAL FORMqOEHt FINAL FORMuINITIAL FORMvSOLATED FORMuMEDIAL FORMpOON",
  "s FINAL FORMtGHUNNAz FINAL FORM+aISOLATED FORMtINITIAL FORMuSOLATED FORMtMEDIAL FORMtWITH DOT BELOW",
  "yINVERTED SMALL VyRINGySMALL TAH+eVyTHREE DOTS ABOVEzWO DOTS BELOWpYEHs FINAL FORMtINITIAL FORM",
  "uSOLATED FORMtMEDIAL FORMoOEq FINAL FORMrISOLATED FORMoPEHr FINAL FORMsINITIAL FORMtSOLATED FORM",
  "sMEDIAL FORMsWITH SMALL MEEM ABOVE+dVrEHt FINAL FORMuINITIAL FORMvSOLATED FORMuMEDIAL FORMoQAF",
  "r FINAL FORMsINITIAL FORMtSOLATED FORMsMEDIAL FORMsWITH DOT ABOVE+bBELOW+g AND NO DOTS ABOVE",
  "xTHREE DOTS ABOVEoREHr FINAL FORMsISOLATED FORMsWITH DOT BELOW+g AND DOT ABOVExFOUR DOTS ABOVE",
  "xHAMZA ABOVExINVERTED VxLOOPxRINGxSMALL ARABIC LETTER TAH AND TWO DOTS+dNOON ABOVE+dV+e BELOWyTROKE",
  "xTWO DOTS ABOVE+gVERTICALLY ABOVEpNOONt FINAL FORMuINITIAL FORMvSOLATED FORMuMEDIAL FORMpOHINGYA YEH",
  "pREHs FINAL FORMtISOLATED FORMoSADr FINAL FORMsINITIAL FORMtSOLATED FORMsMEDIAL FORM",
  "sWITH THREE DOTS ABOVE+iBELOWyWO DOTS BELOWpEENs FINAL FORMtINITIAL FORMuSOLATED FORMtMEDIAL FORM",
  "tWITH DOT BELOW AND DOT ABOVEyEXTENDED ARABIC-INDIC DIGIT FOUR ABOVEyFOUR DOTS ABOVEyINVERTED V",
  "ySMALL ARABIC LETTER TAH AND TWO DOTSyTHREE DOTS BELOW+o AND THREE DOTS ABOVE",
  "zWO DOTS VERTICALLY ABOVEpHEENt FINAL FORMuINITIAL FORMvSOLATED FORMuMEDIAL FORMuWITH DOT BELOW",
  "pTRAIGHT WAWpUPERSCRIPT ALEFpWASH KAFoTAHr FINAL FORMsINITIAL FORMtSOLATED FORMsMEDIAL FORM",
  "sWITH DOT BELOWxTHREE DOTS ABOVE+iBELOWyWO DOTS ABOVEpCHEHt FINAL FORMuINITIAL FORMvSOLATED FORM",
  "uMEDIAL FORMuWITH DOT ABOVEzSMALL VtEHv FINAL FORMwINITIAL FORMxSOLATED FORMwMEDIAL FORMpEH",
  "r FINAL FORMsINITIAL FORMtSOLATED FORMsMARBUTAz FINAL FORM+aGOAL+aISOLATED FORMtEDIAL FORMsWITH RING",
  "xSMALL TEH ABOVE+dVxTHREE DOTS ABOVE DOWNWARDSrEHt FINAL FORMuINITIAL FORMvSOLATED FORMuMEDIAL FORM",
  "pHALs FINAL FORMtISOLATED FORMqEHs FINAL FORMtINITIAL FORMuSOLATED FORMtMEDIAL FORMqIN YEHpTEH",
  "s FINAL FORMtINITIAL FORMuSOLATED FORMtMEDIAL FORMtWITH SMALL VsEHu FINAL FORMvINITIAL FORM",
  "wSOLATED FORMvMEDIAL FORMoUp FINAL FORMqISOLATED FORMqWITH HAMZA ABOVE+g ISOLATED FORM",
  "pIGHUR KAZAKH KIRGHIZ ALEF MAKSURA INITIAL FORM+xMEDIAL FORMoVEq FINAL FORMrISOLATED FORMqH",
  "r FINAL FORMsINITIAL FORMtSOLATED FORMsMEDIAL FORMoWAWr FINAL FORMsISOLATED FORMsWITH DOT ABOVE",
  "+bWITHINxEXTENDED ARABIC-INDIC DIGIT THREE ABOVE++aWO ABOVExHAMZA ABOVE+i FINAL FORM+jISOLATED FORM",
  "xRINGxTWO DOTS ABOVEoYEHr BARREEy FINAL FORMzISOLATED FORM",
  "zWITH EXTENDED ARABIC-INDIC DIGIT THREE ABOVE++hWO ABOVE+eHAMZA ABOVE+p FINAL FORM+qISOLATED FORM",
  "sFINAL FORMsINITIAL FORMtSOLATED FORMsMEDIAL FORMsWITH HAMZA ABOVE+i FINAL FORM+jINITIAL FORM",
  "+kSOLATED FORM+jMEDIAL FORMxSMALL VxTAILyHREE DOTS BELOWyWO DOTS BELOW AND DOT ABOVE+qHAMZA ABOVE",
  "+qSMALL NOON ABOVEpUq FINAL FORMrISOLATED FORMoZAHr FINAL FORMsINITIAL FORMtSOLATED FORMsMEDIAL FORM",
  "qINs FINAL FORMtISOLATED FORMtWITH INVERTED V ABOVEiIGATURE AIN WITH ALEF MAKSURA FINAL FORM",
  "+mISOLATED FORMzJEEM INITIAL FORM+fSOLATED FORM+eWITH MEEM FINAL FORM+oINITIAL FORM",
  "zMEEM INITIAL FORM+fSOLATED FORM+eWITH ALEF MAKSURA FINAL FORM+jMEEM FINAL FORM+oINITIAL FORM",
  "+jYEH FINAL FORMzYEH FINAL FORM+dISOLATED FORMrKBAR ISOLATED FORMrLAYHAA AS-SALAAMvE ISOLATED FORM",
  "vI AS-SALAAM+fTU WAS-SALAAMwM AS-SALAAMxAA AS-SALAAMsEF MAKSURA WITH SUPERSCRIPT ALEF FINAL FORM",
  "+zISOLATED FORMvWITH FATHATAN FINAL FORM+jISOLATED FORMsLAH ISOLATED FORMrZZA WA JALL",
  "qBEH WITH ALEF MAKSURA FINAL FORM+mISOLATED FORMzHAH INITIAL FORM+eSOLATED FORM+dWITH YEH FINAL FORM",
  "+aEH INITIAL FORM+dMEDIAL FORMzJEEM INITIAL FORM+fSOLATED FORMzKHAH INITIAL FORM+fSOLATED FORM",
  "+eWITH YEH FINAL FORMzMEEM FINAL FORM+eINITIAL FORM+fSOLATED FORM+eMEDIAL FORMzNOON FINAL FORM",
  "zREH FINAL FORMzYEH FINAL FORM+dISOLATED FORMzZAIN FINAL FORMrISMILLAH AR-RAHMAN AR-RAHEEM",
  "qDAD WITH ALEF MAKSURA FINAL FORM+mISOLATED FORMzHAH INITIAL FORM+eSOLATED FORM",
  "+dWITH ALEF MAKSURA FINAL FORM+iYEH FINAL FORMzJEEM INITIAL FORM+fSOLATED FORMzKHAH INITIAL FORM",
  "+fSOLATED FORM+eWITH MEEM FINAL FORM+oINITIAL FORMzMEEM INITIAL FORM+fSOLATED FORMzREH FINAL FORM",
  "+dISOLATED FORMzYEH FINAL FORM+dISOLATED FORMqFEH WITH ALEF MAKSURA FINAL FORM+mISOLATED FORM",
  "zHAH INITIAL FORM+eSOLATED FORMzJEEM INITIAL FORM+fSOLATED FORMzKHAH INITIAL FORM+fSOLATED FORM",
  "+eWITH MEEM FINAL FORM+oINITIAL FORMzMEEM INITIAL FORM+fSOLATED FORM+eWITH YEH FINAL FORM",
  "zYEH FINAL FORM+dISOLATED FORMqGHAIN WITH ALEF MAKSURA FINAL FORM+oISOLATED FORM+bJEEM INITIAL FORM",
  "+hSOLATED FORM+bMEEM INITIAL FORM+hSOLATED FORM+gWITH ALEF MAKSURA FINAL FORM+lMEEM FINAL FORM",
  "+lYEH FINAL FORM+bYEH FINAL FORM+fISOLATED FORMqHAH WITH ALEF MAKSURA FINAL FORM+mISOLATED FORM",
  "zJEEM INITIAL FORM+fSOLATED FORM+eWITH YEH FINAL FORMzMEEM INITIAL FORM+fSOLATED FORM",
  "+eWITH ALEF MAKSURA FINAL FORM+jYEH FINAL FORMzYEH FINAL FORM+dISOLATED FORM",
  "rEH WITH ALEF MAKSURA ISOLATED FORMzJEEM INITIAL FORM+fSOLATED FORMzMEEM INITIAL FORM+fSOLATED FORM",
  "+eWITH JEEM INITIAL FORM+jMEEM INITIAL FORMzSUPERSCRIPT ALEF INITIAL FORMzYEH ISOLATED FORM",
  "qJALLAJALALOUHOUrEEM WITH ALEF MAKSURA FINAL FORM+nISOLATED FORM+aHAH INITIAL FORM+fSOLATED FORM",
  "+eWITH ALEF MAKSURA FINAL FORM+jYEH FINAL FORM+aMEEM INITIAL FORM+gSOLATED FORM",
  "+fWITH ALEF MAKSURA FINAL FORM+kHAH FINAL FORM+oINITIAL FORM+kYEH FINAL FORM+aYEH FINAL FORM",
  "+eISOLATED FORMqKAF WITH ALEF FINAL FORM+eISOLATED FORM+eMAKSURA FINAL FORM+mISOLATED FORM",
  "zHAH INITIAL FORM+eSOLATED FORMzJEEM INITIAL FORM+fSOLATED FORMzKHAH INITIAL FORM+fSOLATED FORM",
  "zLAM FINAL FORM+dINITIAL FORM+eSOLATED FORM+dMEDIAL FORMzMEEM FINAL FORM+eINITIAL FORM+fSOLATED FORM",
  "+eMEDIAL FORM+eWITH MEEM FINAL FORM+oINITIAL FORM+jYEH FINAL FORMzYEH FINAL FORM+dISOLATED FORM",
  "rHAH WITH ALEF MAKSURA FINAL FORM+nISOLATED FORM+aHAH ISOLATED FORM+aJEEM INITIAL FORM+gSOLATED FORM",
  "+aMEEM INITIAL FORM+gSOLATED FORM+aYEH FINAL FORM+eISOLATED FORMqLAM WITH ALEF FINAL FORM",
  "+eISOLATED FORM+eMAKSURA FINAL FORM+mISOLATED FORM+eWITH HAMZA ABOVE FINAL FORM+vISOLATED FORM",
  "+pBELOW FINAL FORM+vISOLATED FORM+jMADDA ABOVE FINAL FORM+vISOLATED FORMzHAH INITIAL FORM",
  "+eSOLATED FORM+dWITH ALEF MAKSURA FINAL FORM+iMEEM FINAL FORM+nINITIAL FORM+iYEH FINAL FORM",
  "+aEH INITIAL FORMzJEEM INITIAL FORM+fSOLATED FORM+eWITH JEEM FINAL FORM+oINITIAL FORM",
  "+jMEEM FINAL FORM+oINITIAL FORM+jYEH FINAL FORMzKHAH INITIAL FORM+fSOLATED FORM",
  "+eWITH MEEM FINAL FORM+oINITIAL FORMzMEEM FINAL FORM+eINITIAL FORM+fSOLATED FORM+eMEDIAL FORM",
  "+eWITH HAH FINAL FORM+nINITIAL FORM+jYEH FINAL FORMzYEH FINAL FORM+dISOLATED FORM",
  "qMEEM WITH ALEF FINAL FORM+fMAKSURA ISOLATED FORM+aHAH INITIAL FORM+fSOLATED FORM",
  "+eWITH JEEM INITIAL FORM+jMEEM INITIAL FORM+jYEH FINAL FORM+aJEEM INITIAL FORM+gSOLATED FORM",
  "+fWITH HAH INITIAL FORM+kKHAH INITIAL FORM+kMEEM INITIAL FORM+kYEH FINAL FORM+aKHAH INITIAL FORM",
  "+gSOLATED FORM+fWITH JEEM INITIAL FORM+kMEEM INITIAL FORM+kYEH FINAL FORM+aMEEM FINAL FORM",
  "+fINITIAL FORM+gSOLATED FORM+fWITH YEH FINAL FORM+aYEH ISOLATED FORMrOHAMMAD ISOLATED FORM",
  "qNOON WITH ALEF MAKSURA FINAL FORM+nISOLATED FORM+aHAH INITIAL FORM+fSOLATED FORM",
  "+eWITH ALEF MAKSURA FINAL FORM+jMEEM INITIAL FORM+jYEH FINAL FORM+bEH INITIAL FORM+eMEDIAL FORM",
  "+aJEEM INITIAL FORM+gSOLATED FORM+fWITH ALEF MAKSURA FINAL FORM+kHAH FINAL FORM+oINITIAL FORM",
  "+kMEEM FINAL FORM+pINITIAL FORM+kYEH FINAL FORM+aKHAH INITIAL FORM+gSOLATED FORM+aMEEM FINAL FORM",
  "+fINITIAL FORM+gSOLATED FORM+fMEDIAL FORM+fWITH ALEF MAKSURA FINAL FORM+kYEH FINAL FORM",
  "+aNOON FINAL FORM+aREH FINAL FORM+aYEH FINAL FORM+eISOLATED FORM+aZAIN FINAL FORM",
  "qQAF WITH ALEF MAKSURA FINAL FORM+mISOLATED FORMzHAH INITIAL FORM+eSOLATED FORMzMEEM INITIAL FORM",
  "+fSOLATED FORM+eWITH HAH FINAL FORM+nINITIAL FORM+jMEEM FINAL FORM+jYEH FINAL FORMzYEH FINAL FORM",
  "+dISOLATED FORMsLA USED AS KORANIC STOP SIGN ISOLATED FORMrUDDISA SIRRAHqRADI ALLAAHU ANH+gAA+gUM",
  "+iAA+hNNAsHIMAHU ALLAAHyM ALLAAHsSOUL ISOLATED FORMrEH WITH SUPERSCRIPT ALEF ISOLATED FORM",
  "qSAD WITH ALEF MAKSURA FINAL FORM+mISOLATED FORMzHAH INITIAL FORM+eSOLATED FORM+dWITH HAH FINAL FORM",
  "+mINITIAL FORM+iYEH FINAL FORMzKHAH INITIAL FORMzMEEM INITIAL FORM+fSOLATED FORM",
  "+eWITH MEEM FINAL FORM+oINITIAL FORMzREH FINAL FORM+dISOLATED FORMzYEH FINAL FORM+dISOLATED FORM",
  "sLAAMUHU ALAYNAAuM ISOLATED FORMtLA ISOLATED FORMwUSED AS KORANIC STOP SIGN ISOLATED FORM",
  "vLLAAHU ALAYHI WA-AALIHyHOU ALAYHE WASALLAMzU ALAYHI WAAALIHEE WA-SALLAM",
  "rEEN WITH ALEF MAKSURA FINAL FORM+nISOLATED FORM+aHAH INITIAL FORM+fSOLATED FORM+eMEDIAL FORM",
  "+eWITH JEEM INITIAL FORM+bEH INITIAL FORM+eMEDIAL FORM+aJEEM INITIAL FORM+gSOLATED FORM+fMEDIAL FORM",
  "+fWITH ALEF MAKSURA FINAL FORM+kHAH INITIAL FORM+aKHAH INITIAL FORM+gSOLATED FORM+fMEDIAL FORM",
  "+fWITH ALEF MAKSURA FINAL FORM+kYEH FINAL FORM+aMEEM INITIAL FORM+gSOLATED FORM+fMEDIAL FORM",
  "+fWITH HAH FINAL FORM+oINITIAL FORM+kJEEM INITIAL FORM+kMEEM FINAL FORM+pINITIAL FORM",
  "+aREH FINAL FORM+eISOLATED FORM+aYEH FINAL FORM+eISOLATED FORMrHADDA WITH DAMMA ISOLATED FORM",
  "+iMEDIAL FORM+hTAN ISOLATED FORM+cFATHA ISOLATED FORM+iMEDIAL FORM+cKASRA ISOLATED FORM+iMEDIAL FORM",
  "+hTAN ISOLATED FORM+cSUPERSCRIPT ALEF ISOLATED FORMsEEN WITH ALEF MAKSURA FINAL FORM+oISOLATED FORM",
  "+bHAH FINAL FORM+fINITIAL FORM+gSOLATED FORM+fMEDIAL FORM+fWITH MEEM FINAL FORM+pINITIAL FORM",
  "+kYEH FINAL FORM+cEH INITIAL FORM+fMEDIAL FORM+bJEEM FINAL FORM+gINITIAL FORM+hSOLATED FORM",
  "+gMEDIAL FORM+gWITH YEH FINAL FORM+bKHAH FINAL FORM+gINITIAL FORM+hSOLATED FORM+gMEDIAL FORM",
  "+bMEEM FINAL FORM+gINITIAL FORM+hSOLATED FORM+gMEDIAL FORM+gWITH KHAH FINAL FORM+qINITIAL FORM",
  "+lMEEM FINAL FORM+qINITIAL FORM+bREH FINAL FORM+fISOLATED FORM+bYEH FINAL FORM+fISOLATED FORM",
  "rUBHAANAHU WA TAAALAAqTABAARAKA WA-TAAALAAsH WITH ALEF MAKSURA FINAL FORM+mISOLATED FORM",
  "zHAH INITIAL FORM+eSOLATED FORMzMEEM INITIAL FORM+fSOLATED FORM+eMEDIAL FORM+eWITH HAH FINAL FORM",
  "+nINITIAL FORM+jMEEM INITIAL FORM+jYEH FINAL FORMzYEH FINAL FORM+dISOLATED FORM",
  "rEH WITH ALEF MAKSURA FINAL FORM+mISOLATED FORMzHAH INITIAL FORM+eSOLATED FORM+dWITH JEEM FINAL FORM",
  "+nINITIAL FORM+iMEEM INITIAL FORM+aEH INITIAL FORM+dMEDIAL FORMzJEEM INITIAL FORM+fSOLATED FORM",
  "+eWITH ALEF MAKSURA FINAL FORM+jMEEM INITIAL FORM+jYEH FINAL FORMzKHAH INITIAL FORM+fSOLATED FORM",
  "+eWITH ALEF MAKSURA FINAL FORM+jMEEM INITIAL FORM+jYEH FINAL FORMzMEEM FINAL FORM+eINITIAL FORM",
  "+fSOLATED FORM+eMEDIAL FORM+eWITH ALEF MAKSURA FINAL FORM+jHAH INITIAL FORM+jJEEM INITIAL FORM",
  "+jKHAH INITIAL FORM+jYEH FINAL FORMzNOON FINAL FORMzREH FINAL FORMzYEH FINAL FORM+dISOLATED FORM",
  "zZAIN FINAL FORMrHAL WITH SUPERSCRIPT ALEF ISOLATED FORMsEH WITH ALEF MAKSURA FINAL FORM",
  "+nISOLATED FORM+aHEH MEDIAL FORM+aJEEM ISOLATED FORM+aMEEM FINAL FORM+fINITIAL FORM+gSOLATED FORM",
  "+fMEDIAL FORM+aNOON FINAL FORM+aREH FINAL FORM+aYEH FINAL FORM+eISOLATED FORM+aZAIN FINAL FORM",
  "qUIGHUR KIRGHIZ YEH WITH HAMZA ABOVE WITH ALEF MAKSURA FINAL FORM++sINITIAL FORM++tSOLATED FORM",
  "qWASALLAM ISOLATED FORMqYEH WITH ALEF MAKSURA FINAL FORM+mISOLATED FORMzHAH INITIAL FORM",
  "+eSOLATED FORM+dWITH YEH FINAL FORM+bMZA ABOVE WITH AE FINAL FORM+tISOLATED FORM+rLEF FINAL FORM",
  "+vISOLATED FORM+vMAKSURA FINAL FORM++dISOLATED FORM+qE FINAL FORM+sINITIAL FORM+tSOLATED FORM",
  "+qHAH INITIAL FORM+vSOLATED FORM+rEH INITIAL FORM+uMEDIAL FORM+qJEEM INITIAL FORM+wSOLATED FORM",
  "+qKHAH INITIAL FORM+qMEEM FINAL FORM+vINITIAL FORM+wSOLATED FORM+vMEDIAL FORM+qNOON FINAL FORM",
  "+qOE FINAL FORM+tISOLATED FORM+qREH FINAL FORM+qU FINAL FORM+sISOLATED FORM+qWAW FINAL FORM",
  "+uISOLATED FORM+qYEH FINAL FORM+uISOLATED FORM+rU FINAL FORM+tISOLATED FORM+qZAIN FINAL FORM",
  "+aEH INITIAL FORM+dMEDIAL FORMzJEEM INITIAL FORM+fSOLATED FORM+eWITH YEH FINAL FORM",
  "zKHAH INITIAL FORM+fSOLATED FORMzMEEM FINAL FORM+eINITIAL FORM+fSOLATED FORM+eMEDIAL FORM",
  "+eWITH MEEM FINAL FORM+oINITIAL FORM+jYEH FINAL FORMzNOON FINAL FORMzREH FINAL FORMzYEH FINAL FORM",
  "+dISOLATED FORMzZAIN FINAL FORMqZAH WITH MEEM INITIAL FORM+fSOLATED FORM+eMEDIAL FORMhMADDA WAAJIB",
  "mH ABOVEjRK NOON GHUNNAmSIDEWAYS NOON GHUNNAjTHEMATICAL AINvLEFuBEHuDADwLvOTLESS BEH+cFEH+cNOON+cQAF",
  "wUBLE-STRUCK AIN+iBEH+iDAD+kL+iFEH+iGHAIN+iHAH+iJEEM+iKHAH+iLAM+iMEEM+iNOON+iQAF+iREH+iSAD+jEEN",
  "+jHEEN+iTAH+jEH+jHAL+kEH+iWAW+iYEH+iZAH+kINuFEHuGHAINuHAHuINITIAL AIN+cBEH+cDAD+cFEH+cGHAIN+cHAH+dEH",
  "+cJEEM+cKAF+dHAH+cLAM+cMEEM+cNOON+cQAF+cSAD+dEEN+dHEEN+cTEH+dHEH+cYEHuJEEMuKAFvHAHuLAMvOOPED AIN",
  "+cLEF+bBEH+bDAD+dL+bFEH+bGHAIN+bHAH+cEH+bJEEM+bKHAH+bLAM+bMEEM+bNOON+bQAF+bREH+bSAD+cEEN+cHEEN+bTAH",
  "+cEH+cHAL+dEH+bWAW+bYEH+bZAH+dINuMEEMuNOONuOPERATOR HAH WITH DAL+dMEEM WITH HAH WITH TATWEELuQAFuREH",
  "uSADvEENvHEENvTRETCHED AIN+eBEH+eDAD+fOTLESS BEH+mFEH+eFEH+eGHAIN+eHAH+fEH+eJEEM+eKAF+fHAH+eMEEM",
  "+eNOON+eQAF+eSAD+fEEN+fHEEN+eTAH+fEH+fHEH+eYEH+eZAHuTAHwILED AIN+bDAD+cOTLESS NOON+jQAF+bGHAIN+bHAH",
  "+bJEEM+bKHAH+bLAM+bNOON+bQAF+bSAD+cEEN+cHEEN+bYEHvEHvHALwEHuWAWuYEHuZAHwINhNUMBER MARK ABOVEoSIGN",
  "hOPEN DAMMATANmFATHATANmKASRATANhPERCENT SIGNiIASTRE MARK ABOVEiLACE OF SAJDAHiOETIC VERSE SIGN",
  "jUND MARK ABOVEhQUESTION MARKhRAISED ROUND DOTjYiEVERSED DAMMAiIGHT ARROWHEAD ABOVE+c WITH DOTxBELOW",
  "iOUNDED HIGH STOP WITH FILLED CENTREhSEMICOLONiHADDAn ISOLATED FORMoMEDIAL FORMiIGN ALAYHE ASSALLAM",
  "mMISRAmRADI ALLAHOU ANHUoHMATULLAH ALAYHEmSAFHAoLLALLAHOU ALAYHE WASSALLAMoMVAToNAHnINDHI AMPERSAND",
  "tPOSTPOSITION MENmTAKHALLUSiMALL DAMMAnFARSI YEHpTHAnHIGH AINsDOTLESS HEAD OF KHAHsFARSI YEH",
  "tOOTNOTE MARKERsJEEMsLAM ALEFtIGATURE ALEF WITH LAM WITH YEH+bQAF WITH LAM WITH ALEF MAKSURA",
  "+bSAD WITH LAM WITH ALEF MAKSURAsMADDAtEEM INITIAL FORMySOLATED FORMsNOONw WITH KASRAsQAF",
  "sROUNDED ZEROsSADtEENtIGN SAFHAsTAHtHREE DOTSsUPRIGHT RECTANGULAR ZEROsWAWtORD AL-JUZyN-NISFyR-RUB",
  "yS-SAJDAyTH-THALATHAxQIFxSAHzKTAxWAQFAsYEHv BARREE WITH TWO DOTS BELOWsZAHuINnKASRAnLOW MEEM",
  "rNOON WITH KASRArSEENrWAWsORD IMAALAxSHMAAMwTASHEELnWAWnYEHiTART OF RUB EL HIZBiUBSCRIPT ALEFjKUN",
  "m BELOWnISOLATED FORMnMEDIAL FORMjPERSCRIPT ALEF MOKHASSASiYMBOL DOT ABOVEsBELOW",
  "qUBLE VERTICAL BAR BELOWoFOUR DOTS ABOVEyBELOWoRINGoSMALL TAH ABOVEyBELOWoTHREE DOTS ABOVEzBELOW",
  "zPOINTING DOWNWARDS ABOVE+sBELOWpWO DOTS ABOVExBELOWxVERTICALLY ABOVE+iBELOWoWASLA ABOVE",
  "hTAIL FRAGMENTjTWEELo WITH FATHATAN ABOVEuOVERSTRUCK HAMZA+fWAWuTWO DOTS BELOWiHOUSANDS SEPARATOR",
  "iONE LOOP ABOVErBELOWmONE DOT ABOVEuBELOWmTWO DOTS ABOVEvBELOWiRIPLE DOT PUNCTUATION MARK",
  "iURNED DAMMA BELOWhVERTICAL TAILiOWEL SIGN DOT BELOWsINVERTED SMALL V ABOVEsSMALL V ABOVE",
  "hWAVY HAMZA BELOWhZWARAKAYg-INDIC CUBE ROOTnDIGIT EIGHTtFIVEuOURtNINEtONEtSEVENuIXtTHREEuWOtZERO",
  "nFOURTH ROOTnPER MILLE SIGNrTEN THOUSAND SIGNcCcIEScMENIAN ABBREVIATION MARKkPOSTROPHE",
  "jCAPITAL LETTER AYByBENyCAzHA+aEHzOyDAyECHzHzTyFEHyGHADzIMyHOyINIyJAzHEHyKEH+aNyLIWNyMENyNOWyOHyPEH",
  "zIWRyRAzEHySEHzHAyTIWNzOyVEWzOyXEHyYI+aWNyZAzHEkOMMAjDRAM SIGNjEMPHASIS MARKkXCLAMATION MARK",
  "jFULL STOPjHYPHENjMODIFIER LETTER LEFT HALF RINGjQUESTION MARKjSMALL LETTER AYBwBENwCAxHAyEHxOwDA",
  "wECHxHxTwFEHwGHADxIMwHOwINIwJAxHEHwKEHyNwLIWNwMENwNOWwOHwPEHxIWRwRAxEHwSEHxHAwTIWNxOxURNED AYBwVEWxO",
  "wXEHwYIy WITH STROKEyWNwZAxHEqIGATURE ECH YIWNyMEN ECH+cINI+cNOW+cXEHyVEW NOW",
  "cROW POINTING DOWNWARDS THEN CURVING LEFTWARDS+mRIGHTWARDSpRIGHTWARDS THEN CURVING DOWNWARDS",
  "+nSOUTH WEST+nUPWARDSpUPWARDS THEN NORTH WESTfHEAD-SHAPED POINTERcTICULATED LORRYeST PALETTE",
  "bSCENDING NODEdIA SYMBOLcSERTIONcTERISKi OPERATORhMdONISHED FACEdRAEAeONOMICAL SYMBOL FOR URANUS",
  "cYMPTOTICALLY EQUAL TObTHLETIC SHOEcOM SYMBOLbUBERGINEcSTRAL SIGNcTO RICKSHAWeMATED TELLER MACHINE",
  "fOBILEbVESTAN ABBREVIATION MARKiLETTER AqArNrOqErEqNqOpBEqHEpCEpDEqHEpEqEpFEpGEqGEqHEpHEqMEpIqIpJE",
  "pKEpLEpMEpNEqGErVErYEqNEqYEpOqOpPEpREpSEqHErYEqSHEpTEqHEqTEpUqUpVEpXEqVEqYEpYEqYEpZEqHEcOCADObXE"]

def namesB : List String := [
  "aBABYe ANGELfBOTTLEfCHICKfSYMBOLcCK OF ENVELOPEfWITH LEFTWARDS ARROW ABOVE",
  "e-TILTED SHADOWED WHITE RIGHTWARDS ARROWeSLANTED SOUTH ARROW WITH HOOKED TAIL+fRIZONTAL TAILfPACEdON",
  "dTRIAN CAMELcDGERdMINTON RACQUET AND SHUTTLECOCKcGELdGAGE CLAIMdUETTE BREADcLINESE ADEG ADEG",
  "jCARIK PAMUNGKAHrRERENpSIKIjDIGIT EIGHTpFIVEqOURpNINEpONEpSEVENqIXpTHREEqWOpZEROjLETTER AIKARArKARA",
  "v TEDUNGrRCHAIC JNYArSYURA SASAKqBAs KEMBANGqCAs LACAqDAs MADUuURDA ALPAPRANAzMAHAPRANAqEF SASAK",
  "rKARAqGAs GORAqHAqIKARAv TEDUNGqJAs JERAqKAs MAHAPRANAsF SASAKrHOT SASAKqLAs LENGAy TEDUNGqMAqNA",
  "s RAMBATrGArYAqOKARAv TEDUNGqPAs KAPALqRAs REPAx TEDUNGqSAs SAGAvPAqTAs LATIKtMURDA MAHAPRANAtTAWA",
  "rZIR SASAKqUKARAv TEDUNGqVE SASAKqWAqYAqZAL SASAKjMUSICAL SYMBOL COMBINING BENDE+iENDEP+iGONG",
  "+iJEGOGAN+iKEMPLI+o WITH JEGOGAN+mUL+o WITH JEGOGAN+iTEGEHyDAENG+aING+aNG+c GEDE+dSURANGzENG+aUNG",
  "zINGzONGzUNGyLEFT-HAND CLOSED PLAK+rUK+iOPEN PANG+oING+oUNGyRIGHT-HAND CLOSED TAK+rUK+jOPEN DAG+pUG",
  "jPAMADAp LANTANGmENENGlNTIo LANTANGjSIGN BISAHoCECEKoREREKANoSURANGoULU CANDRAsRICEM",
  "jVOWEL SIGN LA LENGA+c TEDUNGuPEPETz TEDUNGuRA REPA+b TEDUNGuSUKUy ILUTuTALING+a REPA+f TEDUNG",
  "+bTEDUNGvEDUNGuULUx SARIjWINDUdL OF YARNeET SHOESeOONh-SPOKED ASTERISKfT BOLD SCRIPT XjX",
  "k WITH BALLOTrOLD CHECKvSCRIPT XqCHECKqLIGHT XqSCRIPT XqXhSCRIPT XhXcMUM COLONiMBINING MARK KOQNDON",
  "vTUKWENTISjMAgFULL STOPgLETTER AnEEnFAAMAEoEEoOMoUnInKAoENpTpUXoIoOpGHOMpVUUoPAoUoYEEnLAoEEEEoIoOQoU",
  "nMoAoBAApENoEEEEpNoIoOoUnNAoDAAoGApGApKWAENoIoJAEMpEEpUAEoSHAoTEEpUUoUpAEoYInOnPAoEEpUXoHASE-A FIRI",
  "vGBIEE FONwHEUAEGHEUAE+bRAEvKAFAxQwETxUKEUTNDAwPOQwUOQvLAPAQwET KUTwOMMAEwUxAEPvMAEKEUPyMzBGBIEE",
  "zKPENzVEUXyNYIySIxNSUAExP PIEETwBANYIyQwEUNJOMNDEUQwGBASAwON NGGEUAETxOMEUTzPUQwVEUAENGAMvNAA MFONxQ",
  "wDA LEERAEWAyANGGEUAETwENwGANGUxGENxKUE MFON+aNZEUMwIKAwJAMwKAARAExINDIwSHAyIEEwTAPz MFAA+aNTAA",
  "xOQPENwYETxIyT MONGKEUAEQwZA MFONxUN MEUTvPA LEERAEWAxAMyRAExMSHAExSHAEwETwON MFON PIPAEMBA+kGBIEE",
  "zPA NJI PIPAEMBA+mGBIEEwUPvROMvSEUNYAMwHINDA PA NJIyRAExOQ NSHUT YUMxUENSHUETyMwISAwONJAMxQxTwUU",
  "vTEUAENyTEUWENwITA MFONwU MAEMBAxAEPvU YUQ NAEwNKNOWNvVEEtB FEExUXvGHEUGHEN+cUAEMvKAMwEUAEMyPUQyYEUX",
  "wIEEMxQvLAANAExM NSHUT NYAMwETwOM NTEUMvMAx NJEUAENA+aUQAwBA MAELEEyARAExEURIxIT MBAAKETxUOQwEUQ",
  "yT NGGEETwFIYAQxON TEUAEQwONTIEENvNDU NJAAwGGAAMyEU MBUyUOQ+b LARGExKINDI MVOPxOMwSENxHUET",
  "wTIEE SHEUOQwYAEMAExI NTEUMvPARUMwEESHIwITwUNGAAMvSAKEUAEwET TUwHET NJAQyUAEQTUwIEEwUEvTAAM",
  "wU MAEMGBIEEyNSIEEvVEUMvWUAETvYAFU LEERAEWAwEURAEtC BUNGvFUEvGBAYIwHAPyRAEvKAAwEN FATIGUEzLAWxTxUKAQ",
  "yMySEUXzHEUAEPwPARAQwUOP NKAARAExTvLAMxPwIQwUvMA KEUAERIyNSIEExEMBAySIwBAA CABBAGE-TREE+aPICKETyNYI",
  "xEEKEETyRAEyUMzXxIyRIEENyTxUAEMyEwGBASAQwIEEwUAEvNANSANAQxQwDAMyPxEUAEREEzTxIDAxOMBUwGAQxGENyU",
  "zAEN NYAMzEETzMzONxKAQyUE MAEMBAxOMwJAEMyMxEEEEyUXxUEQwSAxEUAENxHAQxOMxUNyOT NGOMwTAAxENyUNGBA",
  "xU MBITwYIR MKPARAQ MEUNwZAxEUMvPENwINxRIEENvRUvSETFONxUXwHIQxUEQwUAETvTAASHAEwETxUTEUXwITA YUEyUAEP",
  "vVEUAEPENyXvWANGKUOQwUPvYAAwEUQwU MUOMAExMxWOQtD FAAwEUFEUAETvGHAAxEUAEvKETxUAETMEUNyMyOT MBUAEyPwU",
  "xNxOMxQwWAETwYEEvLEEEExTxUAEPyMwIEEwOQwUMvMwAENJETxLEERIwBAAz SEVENxUOwEEEExUNyTwFEUAEzTxIEExOyN",
  "wGBEUNyIEEyOFUMwONIwUwVOPvNDAMxEEyUXxONwGGAAM+bAEzPyEUXyUOMyWAENxKAPyEUAEQ+aRIyIEEyUNyYEEwIwJAP",
  "xEUAEMzTxIyEExUEQwSHEEyUTxIEEP+aTxUMwTEEyUMxUUwUwYAMxETxIxUEvPAPwEExUTAEwIPwUQxUTvRAEMwEN MUCHzOLD",
  "wIIvSAPxQwEUAEQwHEEyUAEzXxIIxOQxUwOTwUAExExUvTAEwEEEExUAENyNyTwIwOQwUxOTvWAPwUAENvYAEMMAEwENwUOMyP",
  "xWOQtE AvFAxQwEEwOMwU CALLyIyREMEDYxEyTvGBETyUXwHAAMAExETyUAEzNzXxOMvIvKETxUAEyXwIwOwPEUXwUETxOPxT",
  "vLAAMxPxQwEUAEMwOMxONyTxQwUvMAxEyMxPxQwBEEyUMwENwFEUQwGBAyENwIxEEwONwUAEwVIvNAxEwDAA MY HOUSE",
  "+aSOFTNESSyPxIAQyQxUNwGAxEUREUTxGEEEEzUAE+cTyUAESHAE NYAMzPzRAExKAzAMIyEUAEM+aXyUMzPxOPyQxUAE+aT",
  "wJAEMLIxEEz EPOCHyUXwKOMwSHIEEyUEzOPwTAPxUMwYI BETWEENzCLEAVERwZAQxUQvOvPA PEOPLEzLURALxAyMwEEMxUTyX",
  "wIxEEQyTwOxONwUxAEyQxExMvRAExQwEUXwIMGBAvSAAwEExTwHEUAEQxIQxOyQwOMwUAENvTAAyQxEN NTEUMxMxQwENxUyAEQ",
  "wOOyNxQwUAExMyAEvVEExUAEwOMvWEUXwUExOvYAPwEUAE+aTyMyXwIEExTwOQ COVERzSWIMMINGwUAENxEQxNxQtF EEvFOM",
  "vKAwENxTwOwPAwUwYEEvLAwIwOQvMwAwBAAxENwEEEEwOvNDAAwGGAxKWAENwIwJAEMxUAEwSHAwTEEwUxAEwYIvPEExUXwUAE",
  "vREExNxUXwIEExIwUvSAMBAwEUXwHIIxOxUwIwUUvTAAxEwETvUvVUEQvWAwUEvYAwOQoIoUAEpEnRAEoEEpNpUXoIEEpIoU",
  "nSAMBAoEUXoHEUXpIIpOpUoIoUUnTAApEoENpToInUnWAoUEnYAoOQoUQgNJAEMLIgQUESTION MARKgSEMICOLONcNANAdJOdK",
  "eNOTE WITH DOLLAR SIGNoEURO SIGNoPOUND SIGNoYEN SIGNcR CHARTeOF SOAPdBER POLEcSEBALLdKET",
  "gBALL AND HOOPdSA VAH COMBINING HIGH TONEy-LOW TONEuLOW TONEx-MID TONEuMID TONEkFULL STOPkLETTER A",
  "rBArCErDHIIsOrEsEsNNIrFArGAHsBUrHWAHrIrJOrKAsPAHrMBErOsOrPArSErTOrUsWUrVUrWAtDDArYEINsIErZOcT",
  "dAK CONSONANT SIGN HvNGgLETTER AnBAnCAnDAnGAnHAnInJAnKARO BAnLAnMApNDAILING HAyNAySAoBAnNAoDAoGA",
  "oORTHERN TAoYAnPApKPAK WAnRAnSAoIMALUNGUN AyGAyHAyLAyMAyPAyRAySAyWAyYAoOUTHERN TAnUnWAnYAgPANGOLAT",
  "jONGONANgSIGN TOMPIhYMBOL BINDU JUDULtNA METEKtPANGOLATuINARBORASgVOWEL SIGN EsErIrKARO IwOrO",
  "rPAKPAK ErUs FOR SIMALUNGUN SAdHeTUBdTERYbEACH WITH UMBRELLAdMED ASCENDING MUSICAL NOTES",
  "hDESCENDING MUSICAL NOTEShEIGHTH NOTEShSIXTEENTH NOTESdNSdR FACEeDED PERSONdTING HEARTdVERcCAUSEcD",
  "cER MUGdTLEcLdLe PEPPERfSYMBOLfWITH CANCELLATION STROKEeHOP BELLcNGALI ABBREVIATION SIGNjNJI",
  "jU LENGTH MARKiCURRENCY DENOMINATOR SIXTEENrNUMERATOR FOUR+bONE+e LESS THAN THE DENOMINATOR+bTHREE",
  "+cWOiDIGIT EIGHToFIVEpOURoNINEoONEoSEVENpIXoTHREEpWOoZEROiGANDA MARKiISSHARiLETTER AqAqIqUpBAqHApCA",
  "qHApDAqDArHAqHApEpGAqHApHApIqIpJAqHApKAqHAsNDA TApLApMApNAqGAqNAqYApOpPAqHApRAr WITH LOWER DIAGONAL",
  "xMIDDLE DIAGONALqHAqRApSAqHAqSApTAqHAqTArHApUqUpVEDIC ANUSVARAqOCALIC LyLxRyRpYAqYAiRUPEE MARKoSIGN",
  "iSANDHI MARKjIGN ANUSVARAoVAGRAHAnCANDRABINDUnNUKTAnVIRAMApSARGAiVOWEL SIGN AAuIuUtEtIuItOtUuU",
  "tVOCALIC L+cL+bR+cRdT ARROW POINTING DOWNWARDS THEN NORTH EASTeO BOXdZENE RINGm WITH CIRCLEcT SYMBOL",
  "dWEENcVERAGE BOXbHAIKSUKI DANDAlIGIT EIGHTqFIVErOURqNINEqONEqSEVENrIXqTHREErWOqZEROlOUBLE DANDA",
  "kGAP FILLER-1v2kHUNDREDS UNIT MARKkLETTER AsAsIsUrBAsHArCAsHArDAsDAtHAsHArErGAsHArHArIsIrJAsHArKAsHA",
  "rLArMArNAsGAsNAsYArOrPAsHArRArSAsHAsSArTAsHAsTAtHArUsUrVAsOCALIC LzR+aRrYAkNUMBER EIGHTwYrFIFTYtVE",
  "sORTYtURrNINEvTYrONErSEVENwTYsIXuTYrTENsHIRTYtREEsWENTYtOkSIGN ANUSVARAqVAGRAHApCANDRABINDUpVIRAMA",
  "rSARGAkVOWEL SIGN AAwIwUvEvIwIvOvUwUvVOCALIC L+dR+eRkWORD SEPARATORbICYCLEgISTcG REVERSE SOLIDUS",
  "eSOLIDUScKINIcLLED CAPeIARDScOHAZARD SIGNcRDdTHDAY CAKEcSONcTCOIN SIGNdING LIPbLACK BOWTIE",
  "gCENTRE WHITE STARhHESS BISHOPs ROTATED NINETY DEGREES+bTWO HUNDRED SEVENTY DEGREESmEQUIHOPPER",
  "w ROTATED NINETY DEGREESmKINGq ROTATED NINETY DEGREESzTWO HUNDRED SEVENTY DEGREESnNIGHT",
  "s ROTATED FORTY-FIVE DEGREES+bNINETY DEGREES+bONE HUNDRED THIRTY-FIVE DEGREES",
  "+bTHREE HUNDRED FIFTEEN DEGREES+cWO HUNDRED SEVENTY DEGREES+nTWENTY-FIVE DEGREESs-BISHOPtQUEENtROOK",
  "mPAWNq ROTATED NINETY DEGREESzTWO HUNDRED SEVENTY DEGREESmQUEENr ROTATED NINETY DEGREES",
  "+aTWO HUNDRED SEVENTY DEGREESmROOKq ROTATED NINETY DEGREESzTWO HUNDRED SEVENTY DEGREESmTURNED BISHOP",
  "tKINGuNIGHTtPAWNtQUEENtROOKhIRCLEm FOR RECORDnWITH DOWN ARROWsTWO WHITE DOTSsWHITE DOT RIGHT",
  "hLUB SUIThROSS ON SHIELDhURVED DOWNWARDS AND LEFTWARDS ARROW+bRIGHTWARDS ARROW",
  "nLEFTWARDS AND DOWNWARDS ARROW+bUPWARDS ARROWnRIGHTWARDS AND DOWNWARDS ARROW+cUPWARDS ARROW",
  "nUPWARDS AND LEFTWARDS ARROWzRIGHTWARDS ARROWgDIAMONDn CENTREDoMINUS WHITE XoON CROSSoSUIT",
  "oWITH DOWN ARROWhOWN POINTING BACKHAND INDEXk-POINTING DOUBLE TRIANGLEuISOSCELES RIGHT TRIANGLE",
  "uSMALL TRIANGLEuTRIANGLEkWARDS EQUILATERAL ARROWHEADhRAUGHTS KINGpMANiOPLETgFLAGiORETTEhOLDER",
  "iUR POINTED STARgHARD SHELL FLOPPY DISKhEARTl SUITiXAGONhORIZONTAL ELLIPSEiURGLASSgLARGE CIRCLE",
  "mSQUAREhEFT LANE MERGElPOINTING BACKHAND INDEXuINDEXk-POINTING DOUBLE TRIANGLE+j WITH VERTICAL BAR",
  "uISOSCELES RIGHT TRIANGLEuPOINTERuSMALL TRIANGLEuTRIANGLEkWARDS BULLETqEQUILATERAL ARROWHEAD",
  "hOWER LEFT TRIANGLEmRIGHT TRIANGLEiZENGEgMEDIUM DIAMONDoOWN-POINTING TRIANGLE+j CENTRED",
  "nLEFT-POINTING TRIANGLE+j CENTREDoOZENGEnRIGHT-POINTING TRIANGLE+k CENTREDnSMALL DIAMONDtLOZENGE",
  "tSQUAREoQUAREnUP-POINTING TRIANGLE+h CENTREDhOON LILITHgNIBgOCTAGONgPARALLELOGRAMhENNANTjTAGON",
  "hUSHPINgQUESTION MARK ORNAMENTgRECTANGLEhIGHT POINTING BACKHAND INDEXvINDEX",
  "l-POINTING DOUBLE TRIANGLE+k WITH VERTICAL BARvISOSCELES RIGHT TRIANGLEvPENTAGONwOINTER",
  "vSMALL TRIANGLEvTRIANGLE+d WITH DOUBLE VERTICAL BARlWARDS ARROWwHEADrBULLETrEQUILATERAL ARROWHEAD",
  "hOSETTEgSAFETY SCISSORShCISSORShHOGI PIECEhKULL AND CROSSBONEShLIGHTLY SMALL CIRCLEvSQUARE",
  "hMALL DIAMONDmLOZENGEmSQUAREnTARiILING FACEhNOWMANhPADE SUIThQUAREm BUTTONnCENTREDnFOR STOPhTAR",
  "hUN WITH RAYSgTELEPHONEhINY DIAMONDlLOZENGElSQUAREhOUCHTONE TELEPHONEhRUCKhWO-WAY LEFT WAY TRAFFIC",
  "gUNIVERSAL RECYCLING SYMBOLhP POINTING BACKHAND INDEXi-POINTING DOUBLE TRIANGLE",
  "sISOSCELES RIGHT TRIANGLEsSMALL TRIANGLEsTRIANGLEiPER LEFT TRIANGLEmRIGHT TRIANGLE",
  "iWARDS EQUILATERAL ARROWHEADgVERTICAL ELLIPSEpRECTANGLEjY SMALL DIAMONDrLOZENGErSQUARE",
  "f-FEATHERED NORTH EAST ARROWqRIGHTWARDS ARROWqSOUTH EAST ARROWgLETTER CAPITAL CvHvIvRvZdNK SYMBOL",
  "cOCK SEXTANT-1p2q3r4s5s6r5s6r6q4r5s6r6q5r6q6p3q4r5s6r6q56q6p4q5r6q6p5q6p6o2p3q4r5s6r6q5r6q6p4q5r6p5",
  "q6p6o3p4q5r6q6p5q6p6o4p5q6p6o5p6o6dSSOMdWFISHcUE BOOKfHEARTeBERRIESbOARcLD EIGHT SPOKED ASTERISK",
  "fFIVE SPOKED ASTERISKfGREEK CROSSfSALTIREgIX SPOKED ASTERISKfWHITE CIRCLElSQUAREcMdBcNEcOKeMARK",
  "i TABSeSdMERANGcPOMOFO FINAL LETTER GwHwKwPwTjLETTER ArHrIsNNrMrNsGsNrUsNNqBrUqCrHqDqErErHrIrNsGsNrR",
  "qFqGrHrNrUrWqHqIrHrMrNNtNrRrUqJrIqKrWqLrHqMqNrGsGrNqOr WITH DOT ABOVErErMrNGsNrOrUqPqQqRqSrHqTqUrNN",
  "qVqXqZrHrIrYcTTLE WITH POPPING CORKeOM ARC ANTICLOCKWISE ARROWhCURLY BRACKEThHALF BLACK CIRCLE",
  "mINTEGRALmLEFT PARENTHESISmRIGHT PARENTHESIShLEFT CORNERnROPmHALF BRACKEThPARENTHESIShRIGHT CORNER",
  "oROPnHALF BRACKEThSQUARE BRACKETv OVER TOP SQUARE BRACKEThTORTOISE SHELL BRACKETcUQUETh OF FLOWERS",
  "cW AND ARROWdL OF HYGIEIAfWITH SPOONeINGdTIEg WITH LEFT HALF BLACKmRIGHT HALF BLACK",
  "cX DRAWINGS DOUBLE DOWN AND HORIZONTAL+dLEFT+dRIGHTuHORIZONTALuUP AND HORIZONTAL+bLEFT+bRIGHT",
  "uVERTICAL+c AND HORIZONTAL+hLEFT+hRIGHTpWN DOUBLE AND HORIZONTAL SINGLE+dLEFT SINGLE+dRIGHT SINGLE",
  "sHEAVY AND HORIZONTAL LIGHT+cLEFT LIGHT+hUP LIGHT+cRIGHT LIGHT+iUP LIGHT+cUP HORIZONTAL LIGHT",
  "sLIGHT AND HORIZONTAL HEAVY+cLEFT HEAVY+hUP HEAVY+cRIGHT HEAVY+iUP HEAVY+cUP HORIZONTAL HEAVY",
  "sSINGLE AND HORIZONTAL DOUBLE+dLEFT DOUBLE+dRIGHT DOUBLEnHEAVY DOUBLE DASH HORIZONTAL+fVERTICALvWN",
  "x AND HORIZONTAL+cLEFT+cRIGHTtHORIZONTALtLEFTx AND LIGHT RIGHTtQUADRUPLE DASH HORIZONTAL+iVERTICAL",
  "tRIGHTtTRIPLE DASH HORIZONTAL+fVERTICALtUPv AND HORIZONTAL+aLEFT+bIGHT DOWN+aRIGHTtVERTICAL",
  "+b AND HORIZONTAL+gLEFT+gRIGHTnLEFT DOWN HEAVY AND RIGHT UP LIGHTsHEAVY AND RIGHT DOWN LIGHT",
  "+iUP LIGHT+iVERTICAL LIGHTsLIGHT AND RIGHT DOWN HEAVY+iUP HEAVY+iVERTICAL HEAVY",
  "sUP HEAVY AND RIGHT DOWN LIGHToIGHT ARC DOWN AND LEFT+gRIGHTxUP AND LEFT+eRIGHTtDIAGONAL CROSS",
  "+cDIAMOND+cMIDDLE LEFT TO LOWER CENTRE++d TO MIDDLE RIGHT+rUPPER CENTRE TO MIDDLE RIGHT",
  "++t TO LOWER CENTRE+jRIGHT TO LOWER CENTRE+sUPPER CENTRE TO MIDDLE LEFT TO LOWER CENTRE",
  "+cUPPER CENTRE TO MIDDLE LEFT++d AND MIDDLE RIGHT TO LOWER CENTRE++eTO LOWER CENTRE",
  "++t TO MIDDLE RIGHT+zRIGHT++e AND MIDDLE LEFT TO LOWER CENTRE++fTO LOWER CENTRE++u TO MIDDLE LEFT",
  "+iLEFT TO LOWER RIGHT+iRIGHT TO LOWER LEFTuOUBLE DASH HORIZONTAL+fVERTICALvWNx AND HORIZONTAL+cLEFT",
  "+cRIGHTtHORIZONTAL+d WITH VERTICAL STROKEtLEFTx AND HEAVY RIGHTtQUADRUPLE DASH HORIZONTAL+iVERTICAL",
  "tRIGHTtTRIPLE DASH HORIZONTAL+fVERTICALtUPv AND HEAVY DOWN+bORIZONTAL+aLEFT+aRIGHTtVERTICAL",
  "+b AND HORIZONTAL+gLEFT+gRIGHTnRIGHT DOWN HEAVY AND LEFT UP LIGHTtHEAVY AND LEFT DOWN LIGHT",
  "+iUP LIGHT+iVERTICAL LIGHTtLIGHT AND LEFT DOWN HEAVY+iUP HEAVY+iVERTICAL HEAVY",
  "tUP HEAVY AND LEFT DOWN LIGHTnUP DOUBLE AND HORIZONTAL SINGLE+bLEFT SINGLE+bRIGHT SINGLE",
  "qHEAVY AND DOWN HORIZONTAL LIGHT+aHORIZONTAL LIGHT+aLEFT DOWN LIGHT+fLIGHT+aRIGHT DOWN LIGHT+gLIGHT",
  "qLIGHT AND DOWN HORIZONTAL HEAVY+aHORIZONTAL HEAVY+aLEFT DOWN HEAVY+fHEAVY+aRIGHT DOWN HEAVY+gHEAVY",
  "qSINGLE AND HORIZONTAL DOUBLE+bLEFT DOUBLE+bRIGHT DOUBLEnVERTICAL DOUBLE AND HORIZONTAL SINGLE",
  "+hLEFT SINGLE+hRIGHT SINGLEwHEAVY AND HORIZONTAL LIGHT+gLEFT LIGHT+gRIGHT LIGHT",
  "wLIGHT AND HORIZONTAL HEAVY+gLEFT HEAVY+gRIGHT HEAVYwSINGLE AND HORIZONTAL DOUBLE+hLEFT DOUBLE",
  "+hRIGHT DOUBLEdING GLOVEcYdS SYMBOLbPHbRAHMI DANDAiIGIT EIGHTnFIVEoOURnNINEnONEnSEVENoIXnTHREEoWO",
  "nZEROiOUBLE DANDAhLETTER ApApIpUoBApHAoCApHAoDApDAqHApHAoEoGApHAoHAoIpIoJApHAoKApHAoLApLAoMAoNApGA",
  "pNApYAoOpLD TAMIL LLA+aLAyNNNAyRRAySHORT E+eOoPApHAoRAoSApHApSAoTApHApTAqHAoUpUoVApOCALIC LxLwRxRoYA",
  "hNUMBER EIGHTtYoFIFTYqVEpORTYqURoJOINERoNINEsTYoONEr HUNDREDsTHOUSANDoSEVENtTYpIXrTYoTENpHIRTYqREE",
  "pWENTYqOhPUNCTUATION CRESCENT BARtDOTvUBLE DOTtLINEuOTUShSIGN ANUSVARAmCANDRABINDUmJIHVAMULIYA",
  "mOLD TAMIL VIRAMAmUPADHMANIYAmVISARGAhVIRAMAiOWEL SIGN AAtItUsBHATTIPROLU AAsEsItIsO",
  "tLD TAMIL SHORT E+iOsUtUsVOCALIC L+bL+aR+bRdILLE PATTERN BLANKqDOTS-1w2x3y4z5+a6+b7+c8+b8+a7+b8+a8z6",
  "+a7+b8+a8z7+a8z8y5z6+a7+b8+a8z7+a8z8y6z7+a8z8y7z8y8x4y5z6+a7+b8+a8z7+a8z8y6z7+a8z8y7z8y8x5y6z7+a8z8",
  "y7z8y8x6y7z8y8x7y8x8w3x4y5z6+a7+b8+a8z7+a8z8y6z7+a8z8y7z8y8x5y6z7+a8z8y7z8y8x6y7z8y8x7y8x8w4x5y6z7",
  "+a8z8y7z8y8x6y7z8y8x7y8x8w5x6y7z8y8x7y8x8w6x7y8x8w7x8w8v2w3x4y5z6+a7+b8+a8z7+a8z8y6z7+a8z8y7z8y8x5y6",
  "z7+a8z8y7z8y8x6y7z8y8x7y8x8w4x5y6z7+a8z8y7z8y8x6y7z8y8x7y8x8w5x6y7z8y8x7y8x8w6x7y8x8w7x8w8v3w4x5y6z7",
  "+a8z8y7z8y8x6y7z8y8x7y8x8w5x6y7z8y8x7y8x8w6x7y8x8w7x8w8v4w5x6y7z8y8x7y8x8w6x7y8x8w7x8w8v5w6x7y8x8w7",
  "x8w8v6w7x8w8v7w8v8eNcEADeK PERMITTED HEREeST-FEEDINGdVEcICKdDE WITH VEILeGE AT NIGHTdEFCASEfScOCCOLI",
  "dKEN BARhCIRCLE WITH NORTHWEST ARROWhHEARTdOMdWN HEARTbSbUBBLE TEAgScCKETcGdINESE END OF SECTION",
  "jLETTER AqBAqCAqDAqGAqHAqJAqKAqLAqMArPAqNArGAsKArRArYAsCAqPAqRAqSAqTAqVAqYAjPALLAWAjVOWEL SIGN AEuE",
  "uIuOuUcHID LETTER AnBAnDAnGAnHAnInKAnLAnMAnNAoGAnPAnRAnSAnTAnUnWAnYAgVOWEL SIGN IrU",
  "cILDING CONSTRUCTIONcLLETg OPERATOReHORNi WITH SOUND WAVESeSEYEcRRITOcSd STOPdT IN SILHOUETTE",
  "eS IN SILHOUETTEcTTERgFLYbYTE ORDER MARKcZANTINE MUSICAL SYMBOL AGOGI ARGI+iOTERI+fGORGI+jOTERI",
  "+fMESI+hTRIA+fPOLI ARGI+kGORGI+aNATRICHISMA+bTIKENOKYLISMA+hMA+aPESO EKFONITIKON+gXO NEO+bLI",
  "+bODERMA ARCHAION+iNEO+cSTROFOI SYNDESMOS NEO+kTELOUS ICHIMATOS+iS+j DIPLI+kNEO+cTHEMA+aRGON",
  "+dSYNTHETON+bKTIKO DI+hGA+hKE+hNI+hPA+hVOU+hZOzCHAMILI+fON+bOREVMA ARCHAION+iNEO+bROA KLITON+fSPATHI",
  "+fZYGOSzDASEIA+aIARGON+cSTOLI APLI MEGALI+oIKRI+iDIPLI+iTHESEOS+bESIS APLI DYO DODEKATA",
  "+gDIGRAMMOS EX DODEKATA+gMONOGRAMMOS TESSERA DODEKATA+gTETARTIMORION+hRIGRAMMOS OKTO DODEKATA",
  "+jTIMORION+bFTOGGOS OU+bGORGON+h PARESTIGMENON ARISTERA ANO++fKATO+wDEXIA+cRAMMA GG+bPLI+e ARCHAION",
  "+aYOzEKSTREPTON+aLAFRON+aNARXIS KAI FTHORA VOU+bDOFONON+aPEGERMA+aTERON ARGOSYNTHETON+gPARAKALESMA",
  "+aXO EKFONITIKONzFANEROSIS DIFONIAS+jMONOFONIAS+jTETRAFONIAS+aHTORA SKLIRON CHROMA VASIS",
  "+aTHORA ARCHAION+o DEYTEROU ICHOU+gDIATONIKI DI+qKE+qNANA+rI ANO+tKATO+qPA+qZO+gENARMONIOS ANTIFONIA",
  "+gI YFESIS TETARTIMORION+gMALAKON CHROMA DIFONIAS+vMONOFONIAS+gNAOS ICHOS+hENANO",
  "+gSKLIRON CHROMA SYNAFI+vVASIS+oDIATONON DIzGENIKI DIESIS+gYFESIS+aORGON ARCHAION+gNEO ANO+kKATO",
  "+gPARESTIGMENON ARISTERA+uDEXIA+eSYNTHETON+cTHMIKON N APLOUN+mDIPLOUN+aRONTHISMATAzICHADIN",
  "+aMIDIARGON+cFONON+dTHORA+hON+aSAKIA TELOUS ICHIMATOS+bON ARCHAION+eNEOzKATAVA TROMIKON+fSMA+cHISTI",
  "+aENTIMA ARCHAION+hNEO ANO+lKATO+lMESO+gTA+i ARCHAION+jNEO ANO+nKATO+nMESO+aLASMA+f ANO+gKATO",
  "+aONTEVMA+h ALLO+bRONIS+bUFISMA+aRATIMA ALLO+iRCHAION+hNEO+gTA+fOKOUFISMA+gYPORROON+bEMASTI+aYLISMA",
  "zLEIMMA DYO CHRONON+gENOS CHRONOU+gIMISEOS CHRONOU+gTESSARON CHRONON+hRION CHRONON+bMOI+aYGISMA",
  "zMARTYRIA ALLI DEYTEROS ICHOS+nPROTOS ICHOS+iDEYTEROS ICHOS+iLEGETOS ICHOS+iPLAGIOS ICHOS",
  "+qTETARTOS ICHOS+jROTOS ICHOS+nVARYS ICHOS+iTETARTOS ICHOS+rLEGETOS ICHOS+jRIFONIAS+lTOS ICHOS",
  "+iVARYS ICHOS+aIKRON ISONzNANAzOLIGON ARCHAION+gNEO+aMALON+aXEIA DIPLI+fEKFONITIKON+fNEO+eI ARCHAION",
  "+aYRANISMA ARCHAION+jNEOzPARAKALESMA ARCHAION+lNEO+eLITIKI+k ARCHAION+lNEO+cICHON+aELASTON+h NEO",
  "+bRISPOMENI+bTASMA+eTI+fOKOUFISMA+aIASMA ARCHAION+gNEO+aSIFISTOLYGISMA+hN+i NEO+hPARAKALESMA",
  "+hSYNAGMA+cLI+dONzRAPISMA+aEVMAzSAXIMATA+aEISMA+f NEO+aIMANSIS ARSEOS+o DISIMOU+pTETRASIMOU+qRISIMOU",
  "+iTHESEOS+p DISIMOU+qTETRASIMOU+rRISIMOU+aTAVROS+g APODEXIA+bIGMA+bRAGGISMATA+aYNAGMA ARCHAION",
  "+hMETA STAVROU+hNEO+cEVMA+bRMA+eTIKIzTELEIA+bSSERA+bTRAPLI+aHEMA+e APLOUN+eTISMOS ESO+mXO",
  "+cS KAI APOTHES+bITA+aINAGMA+aRIA+cGORGON+cPLI+bOMIKOLYGISMA+gN ALLO+jRCHAION+iNEO+gPARAKALESMA",
  "+hSIFISTON+gSYNAGMAzVAREIA DIPLI+gEKFONITIKON+gNEO+fI ARCHAION+bTHYzXIRON KLASMAzYFEN ANO+eKATO",
  "+cSIS APLI DYO DODEKATA+gDIGRAMMOS EX DODEKATA+gMONOGRAMMOS TESSERA DODEKATA",
  "+gTRIGRAMMOS OKTO DODEKATA+jTIMORION+aPOKRISIS+i DIPLI+cRROI+bSILI"]

end TreeLint.Text.CharacterName
