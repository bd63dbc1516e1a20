/-
  TreeLint/Text/CharacterName/HToL.lean
  =====================================
  **Names of characters that begin with H to L.**  The tables are those of Unicode 14.
-/

namespace TreeLint.Text.CharacterName

def namesH : List String := [
  "aHADEScIR SPACEeCUTcLFWIDTH BLACK SQUAREkDOWNWARDS ARROWkFORMS LIGHT VERTICALkHANGUL FILLERrLETTER A",
  "zEyCHIEUCHzIEUCyEzOzUyHIEUHyIzEUNGyKHIEUKHzIYEOK+e-SIOSyMIEUMyNIEUN+d-CIEUC+eHIEUHyOzEyPHIEUPHzIEUP",
  "+d-SIOSyRIEUL+d-HIEUH+eKIYEOK+eMIEUM+ePHIEUPH+fIEUP+eSIOS+eTHIEUTHySIOSzSANGCIEUC+dKIYEOK+dPIEUP",
  "+dSIOS+dTIKEUTyTHIEUTHzIKEUTyUyWA+aEzE+aOzIyYA+aEzE+aOzIzOzUkIDEOGRAPHIC COMMAwFULL STOP",
  "kKATAKANA LETTER A+aE+aHA+bE+bI+bO+bU+aI+aKA+bE+bI+bO+bU+aMA+bE+bI+bO+bU+aN+bA+bE+bI+bO+bU+aO+aRA+bE",
  "+bI+bO+bU+aSA+bE+bI+bMALL A+gE+gI+gO+gTU+gU+gYA+hO+hU+bO+bU+aTA+bE+bI+bO+bU+aU+aWA+bO+aYA+bO+bU",
  "tMIDDLE DOTtSEMI-VOICED SOUND MARKtVOICED SOUND MARKs-HIRAGANA PROLONGED SOUND MARK",
  "kLEFT CORNER BRACKEToWARDS ARROWkRIGHT CORNER BRACKETpWARDS ARROWkUPWARDS ARROWkWHITE CIRCLEcMBURGER",
  "dMERg AND PICKlSICKLElWRENCHdSAeTER FACEcND WITH INDEX AND MIDDLE FINGERS CROSSED",
  "qFINGER AND THUMB CROSSEDeBAGgLLeSHAKEdGUL CHOSEONG CEONGCHIEUMCHIEUCH+cIEUC+bSIOS+cSANGCIEUC+gSIOS",
  "rHIEUCHx-HIEUHyKHIEUKHtTUEUMCHIEUCHzIEUCySIOSzSANGCIEUC+dSIOSrIEUCv-IEUNGqFILLERqHIEUHv-SIOSqIEUNG",
  "v-CHIEUCHxIEUCwHIEUHwKIYEOKwMIEUMwPANSIOSxHIEUPHxIEUPwRIEULwSIOSwTHIEUTHxIKEUTqKAPYEOUNMIEUMyPHIEUPH",
  "zIEUPyRIEULySSANGPIEUPrHIEUKHrIYEOKw-TIKEUTqMIEUMv-KIYEOKwPIEUPwSIOSwTIKEUTqNIEUNv-CIEUCwHIEUH",
  "wKIYEOKwPIEUPwSIOSwTIKEUTqPANSIOSrHIEUPHx-HIEUHyPIEUPrIEUPv-CHIEUCHxIEUCwHIEUHwKHIEUKHxIYEOKwNIEUN",
  "wPHIEUPHwSIOS+a-CIEUC+bKIYEOK+bPIEUP+bTHIEUTH+cIKEUTxSANGSIOSwTHIEUTHxIKEUTqRIEULv-CIEUCwHIEUH",
  "wKAPYEOUNPIEUPxHIEUKHxIYEOKwMIEUMwNIEUNwPIEUPwSIOSxSANGKIYEOK+bPIEUP+bTIKEUTwTIKEUTqSIOSu-CHIEUCH",
  "wIEUCvHIEUHvIEUNGvKHIEUKHwIYEOKvMIEUMvNIEUNvPHIEUPHwIEUP+a-KIYEOKvRIEULvSSANGSIOSvTHIEUTHwIKEUT",
  "rSANGCIEUC+a-HIEUHvHIEUHvIEUNGvKIYEOKvNIEUNvPIEUPvRIEULvSIOSz-PIEUPvTHIEUTHwIKEUTvYEORINHIEUH",
  "qTHIEUTHrIKEUTw-CIEUCxKIYEOKxMIEUMxPIEUPxRIEULxSIOSqYEORINHIEUHsSIEUNGhDOUBLE DOT TONE MARKhFILLER",
  "hJONGSEONG CHIEUCHsIEUCw-PIEUPxSSANGPIEUPrHIEUHw-MIEUMxNIEUNxPIEUPxRIEULrIEUNGw-KHIEUKHyIYEOK",
  "xSSANGKIYEOKrKAPYEOUNMIEUMzPHIEUPH+aIEUPzRIEULsHIEUKHsIYEOKx-CHIEUCHyHIEUHyKHIEUKHyNIEUNyPIEUPyRIEUL",
  "ySIOS+c-KIYEOKrMIEUMw-CHIEUCHyIEUCxHIEUHxKIYEOKxNIEUNxPANSIOSyIEUP+c-SIOSxRIEULxSIOSySANGNIEUN+cSIOS",
  "rNIEUNw-CHIEUCHyIEUCxHIEUHxKIYEOKxPANSIOSxRIEULxSIOSxTHIEUTHyIKEUTrPANSIOSy-KAPYEOUNPIEUPzPIEUP",
  "sHIEUPHy-PIEUPzSIOSzTHIEUTHsIEUPw-CHIEUCHyIEUCxHIEUHxMIEUMxPHIEUPHxRIEUL+c-PHIEUPHxSIOS+b-TIKEUT",
  "xTIKEUTrRIEULw-HIEUHxKAPYEOUNPIEUPyHIEUKHyIYEOK+d-HIEUH+eSIOSxMIEUM+c-HIEUH+dKIYEOK+dSIOSxNIEUN",
  "xPANSIOSyHIEUPHyIEUP+c-HIEUH+dPHIEUPH+dSIOS+dTIKEUTxSIOSySANGKIYEOK+cSIOSxTHIEUTHyIKEUT+d-HIEUH",
  "xYEORINHIEUH+i-HIEUHzSIEUNGrSIOSv-CHIEUCHxIEUCwHIEUHwKAPYEOUNPIEUPxIYEOKwMIEUMwPANSIOSxIEUPwRIEUL",
  "wTHIEUTHxIKEUTsSANGCIEUCwIEUNGwKIYEOKwMIEUMwNIEUNwPIEUPwRIEUL+b-KHIEUKHwSIOS+a-KIYEOK+bTIKEUTwTIKEUT",
  "+c-PIEUPwYESIEUNGrTHIEUTHsIKEUTx-CHIEUCHzIEUCyKIYEOKyPIEUPyRIEULySIOS+c-KIYEOKyTHIEUTHrYEORINHIEUH",
  "tSIEUNGz-HIEUH+aKHIEUKH+bIYEOK+aMIEUM+aPANSIOS+aSIOS+bSANGKIYEOKiUNGSEONG As-EUtOtUsEsRAEAw-AxEyOxI",
  "xUrEsOt-EUuOuUsUt-AuEvOvUuOuUrFILLERrIs-AuRAEAtEUtItOu-ItUtYAv-OvEuEvOuOuUrOs-EuOtOu-ItUtYAvEuEvOsE",
  "rSSANGARAEArUs-AuEtEO-EUtI-ItUtYEvOrWAtEsEtOsIrYAt-OuUuYOtEsEtOu-OvUvYAsIt-UsOt-AvEuEOuIuOuYAwEvEOsU",
  "t-AvEuEvOuIuOuUuYEwOhLETTER ApEpRAEAtEoCHIEUCHpIEUCoEpOpUoHIEUHoIpEUNGoKAPYEOUNMIEUMwPHIEUPHxIEUP",
  "wSSANGPIEUPpHIEUKHpIYEOKu-SIOSoMIEUMt-PANSIOSvIEUPuSIOSoNIEUNt-CIEUCuHIEUHuPANSIOSuSIOSuTIKEUToOpE",
  "oPANSIOSpHIEUPHpIEUPt-CIEUCuKIYEOKuSIOSy-KIYEOKzTIKEUTuTHIEUTHvIKEUToRIEULt-HIEUHuKIYEOK+a-SIOS",
  "uMIEUMuPANSIOSvHIEUPHvIEUPz-SIOSuSIOSuTHIEUTHvIKEUTuYEORINHIEUHoSIOSs-CIEUCtKIYEOKtNIEUNtPIEUP",
  "tTIKEUTpSANGCIEUCtHIEUHtIEUNGtKIYEOKtNIEUNtPIEUPtSIOStTIKEUToTHIEUTHpIKEUToUoWAqEpEqOpIoYAqEpEqO",
  "rRINHIEUHqSIEUNGw-PANSIOSxSIOSpIpOq-IrYAtEpUq-IrYEtOhSINGLE DOT TONE MARKeZHOU NUMERAL EIGHTrFIVE",
  "sOURrNINErONErSEVENsIXrTENsHIRTYtREEsWENTYtOdIFI ROHINGYA DIGIT EIGHTwFIVExOURwNINEwONEwSEVENxIX",
  "wTHREExWOwZEROqLETTER AxBAxCAxDAyDAxFAxGAxHAxJAxKAyHAyINNA WA+dYAxLAxMAxNAyGAyYAxPAxRAyRAxSAyHAxTA",
  "yTAxVAxWAxYAxZAqMARK NA KHONNAvSAKINqSIGN HARBAHAYvTAHALAxNAxSSIqVOWEL AwEwIwOwUdUNOO LETTER ApBApDA",
  "pGApHApIpKApLApMApNAqGApPApRApSApTApUpWApYAiSIGN PAMUDPODiVOWEL SIGN ItUcPPY PERSON RAISING ONE HAND",
  "cRD DISKcTCHING CHICKdRAN LETTER ALEPHpYNoBETHoDALETH-RESHoGIMELoHEqTHoKAPHoLAMEDHoMEMoNUNoPEoQOPH",
  "oSADHEqMEKHpHINoTAWpETHoWAWoYODHoZAYNhNUMBER FIVEoONEr HUNDREDoTENpWENTYbEADPHONEeSTONE",
  "j GRAVEYARD SYMBOLdR-NO-EVIL MONKEYeT DECORATIONgHANDSgWITH ARROWlRIBBONlTIP ON THE LEFT",
  "dVY AMPERSAND ORNAMENThRROW SHAFT WIDTH ONE+b HALF+cTHIRDyTWO THIRDShSTERISKgBALLOT X",
  "hLACK CURVED DOWNWARDS AND RIGHTWARDS ARROWtUPWARDS AND RIGHTWARDS ARROWmHEART",
  "l-FEATHERED NORTH EAST ARROWwRIGHTWARDS ARROWwSOUTH EAST ARROWgCHECK MARKjVRON SNOWFLAKEhIRCLE",
  "m WITH CIRCLE INSIDEsSTROKE AND TWO DOTS ABOVEmD SALTIREhONCAVE-POINTED BLACK RIGHTWARDS ARROW",
  "gDASHED TRIANGLE-HEADED RIGHTWARDS ARROWhIVISION SIGNhOLLAR SIGNiUBLE COMMA QUOTATION MARK ORNAMENT",
  "nTURNED COMMA QUOTATION MARK ORNAMENTiWNWARDS ARROW WITH EQUILATERAL ARROWHEAD",
  "+bLARGE EQUILATERAL ARROWHEADgEIGHT POINTED BLACK STARuPINWHEEL STARuRECTILINEAR BLACK STAR",
  "mSPOKED ASTERISKmTEARDROP-SPOKED PROPELLER ASTERISKhQUALS SIGNhXCLAMATION MARK ORNAMENTxSYMBOL",
  "gFIVE POINTED BLACK STARlSPOKED ASTERISKhOUR BALLOON-SPOKED ASTERISKgGREEK CROSS",
  "gHEART EXCLAMATION MARK ORNAMENThORIZONTAL FILLgINTERROBANG ORNAMENTgLARGE CIRCLEiTIN CROSS",
  "hEFT-POINTING ANGLE BRACKET ORNAMENT+aQUOTATION MARK ORNAMENTkWARDS ARROW WITH EQUILATERAL ARROWHEAD",
  "+bLARGE EQUILATERAL ARROWHEADhIGATURE OPEN ET ORNAMENThOW DOUBLE COMMA QUOTATION MARK ORNAMENT",
  "kSINGLE COMMA QUOTATION MARK ORNAMENTjER RIGHT-SHADOWED WHITE RIGHTWARDS ARROWgMINUS SIGN",
  "hULTIPLICATION XgNORTH EAST ARROWrPOINTING BUD+aVINE LEAFmWEST POINTING BUD+aVINE LEAF",
  "gOPEN CENTRE CROSShUTLINED BLACK STARhVAL WITH OVAL INSIDEgPLUS SIGN",
  "gRIGHT-POINTING ANGLE BRACKET ORNAMENT+bQUOTATION MARK ORNAMENTlWARDS ARROW",
  "w WITH EQUILATERAL ARROWHEAD+cLARGE EQUILATERAL ARROWHEADhOUND-TIPPED RIGHTWARDS ARROWgSALTIRE",
  "iNS-SERIF INTERROBANG ORNAMENThCRIPT LIGATURE ET ORNAMENThINGLE COMMA QUOTATION MARK ORNAMENT",
  "nTURNED COMMA QUOTATION MARK ORNAMENTiX POINTED BLACK STARkSPOKED ASTERISKhOUTH EAST ARROW",
  "rPOINTING BUD+aVINE LEAFmWEST POINTING BUD+aVINE LEAFhPARKLEgTEARDROP-SHANKED RIGHTWARDS ARROW",
  "qPOKED ASTERISKwPINWHEEL ASTERISKhRIANGLE-HEADED RIGHTWARDS ARROWhWELVE POINTED BLACK STAR",
  "vPINWHEEL STARgUPPER RIGHT-SHADOWED WHITE RIGHTWARDS ARROWiWARDS ARROW WITH EQUILATERAL ARROWHEAD",
  "zLARGE EQUILATERAL ARROWHEADgVERTICAL BARgWEDGE-TAILED RIGHTWARDS ARROWhHITE CIRCLE",
  "mDOWN-POINTING TRIANGLEmSQUAREhIDE-HEADED RIGHTWARDS ARROWcBREW ACCENT ATNAH HAFUKHoDARGApEHI",
  "oETNAHTAoGERESHu MUQDAMrSHAYIMoILUYoMAHAPAKHpERKHAu KEFULApUNAHoOLEoPASHTAqZERoQADMAqRNEY PARAoREVIA",
  "oSEGOLpHALSHELEToTELISHA GEDOLAwQETANAqVIRpIPEHAoYERAH BEN YOMOqTIVoZAQEF GADOLuQATANqRQApINOR",
  "hLETTER ALEFs WITH MAPIQyPATAHyQAMATSqTERNATIVE AYIN+aPLUS SIGNpYINoBETr WITH DAGESHxRAFEoDALET",
  "t WITH DAGESHoFINAL KAFx WITH DAGESHuMEMuNUNuPEw WITH DAGESHuTSADIoGIMELt WITH DAGESHoHEq WITH MAPIQ",
  "qToKAFr WITH DAGESHxRAFEoLAMEDt WITH DAGESHoMEMr WITH DAGESHoNUNr WITH DAGESHoPEq WITH DAGESHwRAFE",
  "oQOFr WITH DAGESHoRESHs WITH DAGESHoSAMEKHu WITH DAGESHpHINs WITH DAGESH+e AND SHIN DOT+kIN DOT",
  "ySHIN DOTzIN DOToTAVr WITH DAGESHpETr WITH DAGESHpSADIt WITH DAGESHoVAVr WITH DAGESHxHOLAMoWIDE ALEF",
  "tDALETtFINAL MEMtHEtKAFtLAMEDtRESHtTAVoYODr WITH DAGESHxHIRIQoZAYINt WITH DAGESHiIGATURE ALEF LAMED",
  "qYIDDISH DOUBLE VAV+fYODyVAV YODyYOD YOD PATAHhMARK LOWER DOTmMASORA CIRCLEmUPPER DOT",
  "hPOINT DAGESH OR MAPIQnHATAF PATAHtQAMATStSEGOLoIRIQoOLAMs HASER FOR VAVnJUDEO-SPANISH VARIKAnMETEG",
  "nPATAHnQAMATSt QATANoUBUTSnRAFEnSEGOLoHEVApIN DOToIN DOTnTSEREiUNCTUATION GERESHwSHAYIMtMAQAF",
  "tNUN HAFUKHAtPASEQtSOF PASUQhYOD TRIANGLEcDGEHOGcLICOPTERdLSCHREIBER PAUSE SYMBOLdM SYMBOL",
  "eET WITH WHITE CROSScNTAIGANA LETTER A-1u2u3uWOsE-1u2u3u4u5u6sHA-1w0w1v2v3v4v5v6v7v8v9tE-1v2v3v4v5v6",
  "v7tI-1v2v3v4v5v6v7tO-1v2v3v4v5v6v7v8tU-1v2v3sI-1u2u3u4sKA-1w0w1v2v3v4v5v6v7v8v9vKEtE-1v2v3v4v5v6tI-1",
  "v2v3v4v5v6v7v8tO-1v2v3vKItU-1v2v3v4v5v6v7sMA-1v2v3v4v5v6v7tE-1v2vMAtI-1v2v3v4v5v6v7tO-1v2v3v4v5v6",
  "tU-1v2v3v4sN-MU-MO-1+a2tA-1v2v3v4v5v6v7v8v9tE-1v2v3v4v5v6vKOtI-1v2v3v4v5v6v7vTEtO-1v2v3v4v5tU-1v2v3",
  "sO-1u2u3sRA-1v2v3v4tE-1v2v3v4tI-1v2v3v4v5v6v7tO-1v2v3v4v5v6tU-1v2v3v4v5v6sSA-1v2v3v4v5v6v7v8tE-1v2v3",
  "v4v5tI-1v2v3v4v5v6tO-1v2v3v4v5v6v7tU-1v2v3v4v5v6v7v8sTA-1v2v3v4tE-1v2v3v4v5v6v7v8v9tI-1v2v3v4v5v6v7",
  "tO-1v2v3v4v5v6vRAtU-1v2v3v4vTOsU-1u2u3u4u5sWA-1v2v3v4v5tE-1v2v3v4tI-1v2v3v4v5tO-1v2v3v4v5v6v7sYA-1v2",
  "v3v4v5vYOtO-1v2v3v4v5v6tU-1v2v3v4cRBdMITIAN CONJUGATE MATRIXcXAGRAM FOR ABUNDANCEoFTER COMPLETION",
  "oPPROACHnBEFORE COMPLETIONoITING THROUGHoREAKTHROUGHnCOMING TO MEETpNFLICTqTEMPLATION",
  "nDARKENING OF THE LIGHToECREASEpLIVERANCEpVELOPMENToIFFICULTY AT THE BEGINNINGpSPERSIONoURATION",
  "nENTHUSIASMnFELLOWSHIPoOLLOWINGnGATHERING TOGETHERoRACEpEAT POSSESSIONvWERuREPONDERANCEtTAMING",
  "nHOLDING TOGETHERnINCREASEpFLUENCEpNER TRUTHqOCENCEnLIMITATIONnMODESTYpUTH CORNERSnOBSTRUCTION",
  "oPPOSITIONqRESSIONnPEACEoROGRESSoUSHING UPWARDnRETREATqURNpVOLUTIONnSMALL PREPONDERANCEtTAMING",
  "oPLITTING APARToTANDSTILLnTHE ABYSMAL WATERsRMYtOUSING THUNDERrCAULDRONsLINGING FIREsREATIVE HEAVEN",
  "rFAMILYrGENTLE WINDrJOYOUS LAKErKEEPING STILL MOUNTAINrMARRYING MAIDENrRECEPTIVE EARTHrWANDERERsELL",
  "oREADINGnWAITINGoORK ON THE DECAYEDnYOUTHFUL FOLLYbIBISCUScGH BRIGHTNESS SYMBOLfOCTET PRESET",
  "fVOLTAGE SIGNe-HEELED SHOEfSPEED TRAINq WITH BULLET NOSEcKING BOOTcNDU TEMPLEcPPOPOTAMUS",
  "cRAGANA DIGRAPH YORIjITERATION MARKjLETTER ArRCHAIC WUyYEqBArErIrOrUqDArErIrOrUqEqGArErIrOrUqHArErI",
  "rOrUqIqKArErIrOrUqMArErIrOrUqNrArErIrOrUqOqPArErIrOrUqRArErIrOrUqSArErIrMALL AwEwIwKAxEwOwTUwUwWAxE",
  "xIxOwYAxOxUrOrUqTArErIrOrUqUqVUqWArErIrOqYArOrUqZArErIrOrUjVOICED ITERATION MARKcSTORIC SITEbOCHOcLE",
  "dLOW QUILT SQUARE ORNAMENT+c IN BLACK SQUAREcMOTHETICcNEY POTfBEEcOKcPcRIZONTAL BARmLACK HEXAGON",
  "rOCTAGONlELLIPSISlLINE EXTENSIONlMALE WITH STROKE SIGNlONE EIGHTH BLOCK-1358+c2+c3+c4+c5+c6+c7",
  "lSCAN LINE-1v3v7v9lTAB KEYoULATIONv SETwWITH JUSTIFICATIONmRAFFIC LIGHTdSEf FACEgRACINGcSPITAL",
  "cT BEVERAGEeDOGePEPPEReSPRINGSdELcURGLASSj WITH FLOWING SANDdSEf BUILDINGoSgWITH GARDENbRYVNIA SIGN",
  "bTcJcSbUGGING FACEcNDRED POINTS SYMBOLcSHED FACEcTbYGIEAcPHENg BULLEThWITH DIAERESISg-MINUS",
  "gATION POINTdODIASTOLEcSTERESIS SYMBOL"]

def namesI : List String := [
  "aI LOVE YOU HAND SIGNbCE CREAMfUBEeHOCKEY STICK AND PUCKeSKATEbDENTICAL TOm AND SLANTED PARALLEL",
  "kWITH DOT ABOVEgFICATION CARDdOGRAPHIC ANNOTATION BOTTOM MARKxEARTH MARKxFIRST MARKyOUR MARK",
  "+bTH MARKxHEAVEN MARKxLINKING MARKxMAN MARKyIDDLE MARKxONE MARKxREVERSE MARKxSECOND MARKxTHIRD MARK",
  "zREE MARKyOP MARKyWO MARKmCLOSING MARKnOMMAmDEPARTING TONE MARKoSCRIPTION CHARACTER ABOVE TO BELOW",
  "+rMIDDLE AND BELOW+iFULL SURROUND+iLEFT TO MIDDLE AND RIGHT+qRIGHT+iOVERLAID+iSURROUND FROM ABOVE",
  "+wBELOW+wLEFT+xOWER LEFT+wUPPER LEFT++cRIGHTmENTERING TONE MARKmFULL STOPmHALF FILL SPACE",
  "mITERATION MARKmLEVEL TONE MARKmNUMBER ZEROmRISING TONE MARKmSPACEmTALLY MARK FIVEyOURxONExTHREEyWO",
  "nELEGRAPH LINE FEED SEPARATOR SYMBOLwSYMBOL FOR APRIL+iUGUST+hDAY EIGHT+qEEN+mLEVEN+lFIFTEEN+nVE",
  "+mOUR+pTEEN+lNINE+pTEEN+lONE+lSEVEN+qTEEN+mIX+oTEEN+lTEN+mHIRTEEN+qY+r-ONE+nREE+mWELVE+oNTY+r-EIGHT",
  "+sFIVE+tOUR+sNINE+sONE+sSEVEN+tIX+sTHREE+tWO+nO+iECEMBER+hFEBRUARY+hHOUR EIGHT+rEEN+nLEVEN+mFIFTEEN",
  "+oVE+nOUR+qTEEN+mNINE+qTEEN+mONE+mSEVEN+rTEEN+nIX+pTEEN+mTEN+nHIRTEEN+oREE+nWELVE+pNTY+s-FOUR+tONE",
  "+tTHREE+uWO+oO+mZERO+hJANUARY+iULY+jNE+hMARCH+jY+hNOVEMBER+hOCTOBER+hSEPTEMBERmVARIATION INDICATOR",
  "bMAGE OFi OR APPROXIMATELY EQUAL TOcPdERIAL ARAMAIC LETTER ALEPHzYINyBETHyDALETHyGIMELyHE+aTHyKAPH",
  "yLAMEDHyMEMyNUNyPEyQOPHyRESHySADHE+aMEKHzHINyTAWzETHyWAWyYODHyZAYINrNUMBER ONE+b HUNDRED+cTHOUSAND",
  "yTEN+b THOUSANDzHREEzWENTY+aOrSECTION SIGNbNBOX TRAYcCOMING ENVELOPEfPLETE INFINITY",
  "dREASE FONT SIZE SYMBOLiS ASfMENTcDdEXf POINTING AT THE VIEWERdIAN RUPEE SIGN",
  "eC SIYAQ ALTERNATE LAKH MARKmFRACTION ONE HALFzQUARTERvTHREE QUARTERSmLAKH MARKmNUMBER ALTERNATE ONE",
  "+dTEN THOUSAND+eWOtEIGHTy HUNDREDzTHOUSANDyYz THOUSANDtFIFTYy THOUSANDvVEx HUNDREDyTHOUSANDuORTY",
  "y THOUSANDvURx HUNDREDyTHOUSANDtKARORyANtLAKHxANtNINEx HUNDREDyTHOUSANDxTYz THOUSANDtONEw HUNDRED",
  "xTHOUSANDtPREFIXED EIGHT+cFIVE+dOUR+cNINE+cONE+cSEVEN+dIX+cTHREE+dWOtSEVENy HUNDREDzTHOUSANDyTY",
  "+a THOUSANDuIXw HUNDREDxTHOUSANDwTYy THOUSANDtTENw THOUSANDuHIRTYz THOUSANDvREEy HUNDREDzTHOUSAND",
  "uWENTYz THOUSANDvOw HUNDREDxTHOUSANDmPLACEHOLDERmRUPEE MARKcFINITYi NEGATED WITH VERTICAL BAR",
  "dORMATION DESK PERSONmSEPARATOR FOURwONEwTHREExWOnOURCEcHIBIT ARABIC FORM SHAPINGiSYMMETRIC SWAPPING",
  "cPUT SYMBOL FOR LATIN CAPITAL LETTERSxLETTERSxSMALL LETTERSrNUMBERSrSYMBOLS",
  "cSCRIPTIONAL PAHLAVI LETTER ALEPH+dBETH+dDALETH+dGIMEL+dHE+fTH+dKAPH+dLAMEDH+dMEM-QOPH+dNUN+dPE",
  "+dSADHE+fMEKH+eHIN+dTAW+eETH+dWAW-AYIN-RESH+dYODH+dZAYINwNUMBER FOUR+dONE+g HUNDRED+hTHOUSAND+dTEN",
  "+eHREE+eWENTY+fOqRTHIAN LETTER ALEPH+fYIN+eBETH+eDALETH+eGIMEL+eHE+gTH+eKAPH+eLAMEDH+eMEM+eNUN+ePE",
  "+eQOPH+eRESH+eSADHE+gMEKH+fHIN+eTAW+fETH+eWAW+eYODH+eZAYINxNUMBER FOUR+eONE+h HUNDRED+iTHOUSAND+eTEN",
  "+fHREE+fWENTY+gOdERTION SYMBOLcTEGRALi AROUND A POINT OPERATORkVERAGE WITH SLASHjEXTENSION",
  "jWITH DOUBLE STROKEoINTERSECTIONoLEFTWARDS ARROW WITH HOOKoOVERBARoTIMES SIGNoUNDERBARqIONeRCALATE",
  "fIOR PRODUCTfLINEAR ANNOTATION ANCHORxSEPARATORxTERMINATORgOCKED FEMALE AND MALE SIGNfROBANGfSECTION",
  "m ABOVE BAR ABOVE UNIONtUNIONnBESIDE AND JOINED WITH INTERSECTIONnWITH DOTsLOGICAL ANDsOVERBAR",
  "cVERSE BULLETiCHECK MARKnER BOARD FILLiDOWNWARDS ARROW WITH TIP LEFTWARDSiMEDIUM SHADEiWHITE CIRCLE",
  "fTED EXCLAMATION MARKjINTERROBANGjLAZY SkOW KAVYKAt WITH KAVYKA ABOVEjOHM SIGNjPENTAGRAM",
  "jQUESTION MARKjUNDERTIEdISIBLE PLUSkSEPARATORkTIMESbZAKAYA LANTERN"]

def namesJ : List String := [
  "aJACK-O-LANTERNcPANESE BANK SYMBOLjCASTLEjDOLLSjGOBLINjINDUSTRIAL STANDARD SYMBOLjOGREjPOST OFFICE",
  "jSYMBOL FOR BEGINNERcRcVANESE CONSONANT SIGN CAKRAyKERETyPENGKALjDIGIT EIGHTpFIVEqOURpNINEpONEpSEVEN",
  "qIXpTHREEqWOpZEROjLEFT RERENGGANlTTER ArIqBAs MURDAqCAs MURDAqDAs MAHAPRANArDAt MAHAPRANAqEqGA",
  "s MURDAqHAqIr KAWIrIqJAs MAHAPRANAqKAs MURDAtSASAKqLAqMAqNAs MURDArGAt LELETz RASWADIrYAt MURDAqOqPA",
  "s CEREKtMURDAqRAs AGUNGqSAs MAHAPRANAuURDAqTAs MURDArTAt MAHAPRANAqUqWAqYAjPADA ADEGs ADEGpNDAP",
  "oISEN-ISENoLINGSApUHURqNGSIoMADYAoPANGKATpISELEHoTIRTA TUMETESoWINDUlNGKONnRANGKEPjRIGHT RERENGGAN",
  "jSIGN CECAKt TELUoLAYARoPANYANGGAoWIGNYANjTURNED PADA PISELEHjVOWEL SIGN DIRGA MUREuPEPETuSUKU",
  "y MENDUTuTALINGwRUNGvOLONGuWULUy MELIKbEANSbIGSAW PUZZLE PIECEbOINcYSTICKbUGGLINGcNOcPITER"]

def namesK : List String := [
  "aKAABAcITHI ABBREVIATION SIGNhDANDAiOUBLE DANDAoSECTION MARKhENUMERATION SIGNhLETTER ApApIpUoBApHA",
  "oCApHAoDApDAqDHAqHApHAoEoGApHAoHAoIpIoJApHAoKApHAoLAoMAoNApGApNApYAoOoPApHAoRApHAoSApHApSAoTApHApTA",
  "qHAoUpUoVAoYAhNUMBER SIGNs ABOVEhSECTION MARKiIGN ANUSVARAmCANDRABINDUmNUKTAmVIRAMAoSARGA",
  "hVOWEL SIGN AAtItUsEsItIsOsUtUsVOCALIC RcNGAROOeXI RADICAL AGAINqNDqRRIVEsOWqXEpBADGERrMBOOqEANqIG",
  "rRDrTTERqLACKrOODrUEqOATrDYrLT OF CLOTHrNErWqRANCHrISTLErUSHpCARTrULDRONrVEqHILDqITYqLANsWrIFFrOTHES",
  "qOLORrMPARErRPSErVERrWpDEATHrERqIPPERrSHsTINGUISHrVINATIONqO NOTrGrORrTsTED CLIFFwTENTrUBLE XrWN BOX",
  "qRAGONrUMrYpEARsTHrTqIGHTqMBROIDERYqNCLOSURErTERqVENtINGqYEpFACErNGrTHERqEATHERqIELDrGHTrRErSHqLUTE",
  "rYqOOTqRAGRANTrOGqURpGATEqHOSTqOr SLOWLYrLDqRAINsSSpHAIRrLBERDsF TREE TRUNKrNDqEADsRTrMP",
  "qIDING ENCLOSUREqOOKrRNsSEpICEqNCHrSECTpJADErRpKNIFEpLACKrMEqEAFsTHERrEKrGSqIDrFErNEqONGt STRIDEpMAN",
  "qEATrLONqILLETrNISTERqOONrRNINGsTARrUNDtTAINsTHpNETqOSErTpOLDqNEsSELFqPEN BOXrPOSEpPIGqLOWqOWER",
  "qRIVATErOFOUNDpRAINrPrTqEDqICErGHT OPEN BOXrVERqOOFqUNpSACRIFICIAL WINErLTrYqCHOLARrRIPTqEALrCONDrE",
  "rLFqHEEPsLLrOOTsRT TAILED BIRDwHREADqICKNESSrLKqKINqLASHsVErICEqMALLqNOUTqOUNDqPEARsECHrIRITrOON",
  "rROUTqQUAREqTANDrEAMsPrONEsPtPINGqUNqWEETpTABLErLLrNNED LEATHERqENqIGERrLEqONGUErOTHqRACKrEErIPOD",
  "qURBANsTLEqWOs HANDSpUSEpVALLEYqILLAGEpWALKt ENCLOSURErTERqEAPONrSTqHEATrITEqINDsEqOMANrRKqRAPrONG",
  "pYELLOWdNADA AI LENGTH MARKiDIGIT EIGHToFIVEpOURoNINEoONEoSEVENpIXoTHREEpWOoZEROiLENGTH MARKkTTER A",
  "qAqIqUpBAqHApCAqHApDAqDArHAqHApEqEpFApGAqHApHApIqIpJAqHApKAqHApLAqLArLApMApNArKAARA POLLUqGAqNAqYApO",
  "qOpPAqHApRAqRApSAqHAqSApTAqHAqTArHApUqUpVAqOCALIC LyLxRyRpYAiSIGN ANUSVARAoVAGRAHAnCANDRABINDU",
  "nJIHVAMULIYAnNUKTAnSIDDHAMoPACING CANDRABINDUnUPADHMANIYAnVIRAMApSARGAiVOWEL SIGN AAuIuUtEuEtIuItOuO",
  "tUuUtVOCALIC L+cL+bR+cRcTAKANA DIGRAPH KOTOjITERATION MARKjLETTER ArRCHAIC EyWUyYEzIqBArErIrOrUqDArE",
  "rIrOrUqEqGArErIrOrUqHArErIrOrUqIqKArErIrOrUqMArErIsNNAN NASALIZED TONE-1+m2+m3+m4+m5+m7+m8xTONE-2+c3",
  "+c4+c5+c7+c8rOrUqNrArErIrOrUqOqPArErIrOrUqRArErIrOrUqSArErIrMALL AwEwHAxExIxOxUwIwKAxExUwMUwNxUwOwRA",
  "xExIxOxUwSIxUwTOxUwUwWAxExIxOwYAxOxUrOrUqTArErIrOrUqUqVArErIrOrUqWArErIrOqYArOrUqZArErIrOrU",
  "jMIDDLE DOTjVOICED ITERATION MARKi-HIRAGANA DOUBLE HYPHENsPROLONGED SOUND MARK",
  "sSEMI-VOICED SOUND MARKsVOICED SOUND MARKcYAH LI DIGIT EIGHTpFIVEqOURpNINEpONEpSEVENqIXpTHREEqWO",
  "pZEROjLETTER AqBAqCAqDAqGAqHArTAqIqKArHAqLAqMAqNArGArYAqOErOqPArHAqRAqSArHAqTArHAqVAqWAqYAqZA",
  "jSIGN CWIoSHYAjTONE CALYAt PLOPHUoPLOPHUjVOWEL EqEpOpUqEbELVIN SIGNcYdBOARDi AND MOUSEdCAP TEN",
  "bHAROSHTHI DIGIT FOURrONErTHREEsWOlFRACTION ONE HALFlLETTER AsBAtHAsCAtHAsDAtDAuHAtHAsGAtHAsHAsJAsKA",
  "tHAtKAsLAsMAsNAtNAtYAsPAtHAsRAsSAtHAtSAsTAtHAtTAuHAuTAvHAsVAtHAsYAsZAlNUMBER ONE HUNDREDwTHOUSAND",
  "sTENtWENTYlPUNCTUATION CIRCLEyRESCENT BARxDANDAyOTzUBLE DANDAxLINESyOTUSxMANGALAMxSMALL CIRCLE",
  "lSIGN ANUSVARAqBAR ABOVEqCAUDAqDOT BELOWsUBLE RING BELOWqVISARGAlVIRAMAmOWEL LENGTH MARKrSIGN EwIwO",
  "wUwVOCALIC RcITAN SMALL SCRIPT CHARACTER-18B00+i1+i2+i3+i4+i5+i6+i7+i8+i9+iA+iB+iC+iD+iE+iF+h10+i1",
  "+i2+i3+i4+i5+i6+i7+i8+i9+iA+iB+iC+iD+iE+iF+h20+i1+i2+i3+i4+i5+i6+i7+i8+i9+iA+iB+iC+iD+iE+iF+h30+i1",
  "+i2+i3+i4+i5+i6+i7+i8+i9+iA+iB+iC+iD+iE+iF+h40+i1+i2+i3+i4+i5+i6+i7+i8+i9+iA+iB+iC+iD+iE+iF+h50+i1",
  "+i2+i3+i4+i5+i6+i7+i8+i9+iA+iB+iC+iD+iE+iF+h60+i1+i2+i3+i4+i5+i6+i7+i8+i9+iA+iB+iC+iD+iE+iF+h70+i1",
  "+i2+i3+i4+i5+i6+i7+i8+i9+iA+iB+iC+iD+iE+iF+h80+i1+i2+i3+i4+i5+i6+i7+i8+i9+iA+iB+iC+iD+iE+iF+h90+i1",
  "+i2+i3+i4+i5+i6+i7+i8+i9+iA+iB+iC+iD+iE+iF+hA0+i1+i2+i3+i4+i5+i6+i7+i8+i9+iA+iB+iC+iD+iE+iF+hB0+i1",
  "+i2+i3+i4+i5+i6+i7+i8+i9+iA+iB+iC+iD+iE+iF+hC0+i1+i2+i3+i4+i5+i6+i7+i8+i9+iA+iB+iC+iD+iE+iF+hD0+i1",
  "+i2+i3+i4+i5+i6+i7+i8+i9+iA+iB+iC+iD+iE+iF+hE0+i1+i2+i3+i4+i5+i6+i7+i8+i9+iA+iB+iC+iD+iE+iF+hF0+i1",
  "+i2+i3+i4+i5+i6+i7+i8+i9+iA+iB+iC+iD+iE+iF+gC00+i1+i2+i3+i4+i5+i6+i7+i8+i9+iA+iB+iC+iD+iE+iF+h10+i1",
  "+i2+i3+i4+i5+i6+i7+i8+i9+iA+iB+iC+iD+iE+iF+h20+i1+i2+i3+i4+i5+i6+i7+i8+i9+iA+iB+iC+iD+iE+iF+h30+i1",
  "+i2+i3+i4+i5+i6+i7+i8+i9+iA+iB+iC+iD+iE+iF+h40+i1+i2+i3+i4+i5+i6+i7+i8+i9+iA+iB+iC+iD+iE+iF+h50+i1",
  "+i2+i3+i4+i5+i6+i7+i8+i9+iA+iB+iC+iD+iE+iF+h60+i1+i2+i3+i4+i5+i6+i7+i8+i9+iA+iB+iC+iD+iE+iF+h70+i1",
  "+i2+i3+i4+i5+i6+i7+i8+i9+iA+iB+iC+iD+iE+iF+h80+i1+i2+i3+i4+i5+i6+i7+i8+i9+iA+iB+iC+iD+iE+iF+h90+i1",
  "+i2+i3+i4+i5+i6+i7+i8+i9+iA+iB+iC+iD+iE+iF+hA0+i1+i2+i3+i4+i5+i6+i7+i8+i9+iA+iB+iC+iD+iE+iF+hB0+i1",
  "+i2+i3+i4+i5+i6+i7+i8+i9+iA+iB+iC+iD+iE+iF+hC0+i1+i2+i3+i4+i5+i6+i7+i8+i9+iA+iB+iC+iD+iE+iF+hD0+i1",
  "+i2+i3+i4+i5uFILLERcMER CURRENCY SYMBOL RIELgDIGIT EIGHTmFIVEnOURmNINEmONEmSEVENnIXmTHREEnWOmZERO",
  "gINDEPENDENT VOWEL LY+aYyQAA+aI+aQ+aUzEzI+aIzOO TYPE ONE+hTWOzU+aK+aU+bVyRY+aYgLETTER BAnCAoHApOoO",
  "nDAoOnHAnKAoHApOoOnLAoOnMOnNGOoNOoOoYOnPHApOoOnQAnROnSAoHAoSOnTAoHApOoOoTHAqOnVOnYOgSIGN AHSDA",
  "mTTHACANmVAKRAHASANYAlBANTOCnRIYOOSANnTHAMASATmEYYALlCAMNUC PII KUUHmOENGlKAKABATmHANmOOMUUTlLEK TOO",
  "lMUUSIKATOANlNIKAHITlPHNAEK MUANlREAHMUKmOBATlSAMYOK SANNYAlTOANDAKHIATmRIISAPlVIRIAMlYUUKALEAPINTU",
  "hYMBOL BEI KOETrROCoUON KOETsROCnDAP KOETrROCq-BEI KOETvROCsUON KOETwROCrMUOY KOETwROCrPII KOETvROC",
  "sRAM KOETwROCnLEK ATTAK BEIyUONxMUOYxPIIyRAM+b-BEI+dUON+cMUOY+cPIIxSONnMUOY KOETsROCnPATHAMASAT",
  "oII KOETrROCoRAM KOETsROCr-BEI KOETwROCtUON KOETxROCsMUOY KOETxROCsPII KOETwROCnTUTEYASAT",
  "gVOWEL INHERENT AAwQmSIGN AAsEsIsUrErIsEsIrOEsOrUsAsUrYsAsYcOJKI ABBREVIATION SIGNhDANDAiOUBLE DANDA",
  "oSECTION MARKhLETTER ApApIpUoBApBApHAoCApHAoDApDAqDAqHApHAoEoGApGApHAoHAoIoJApJAoKApHAoLApLAoMAoNA",
  "pGApNApYAoOoPApHAoRAoSAoTApHApTAqHAoUoVAoYAhSECTION MARKiIGN ANUSVARAmNUKTAmSHADDAnUKUNmVIRAMA",
  "hVOWEL SIGN AAtItUsEsItIsOsUhWORD SEPARATORcUDAWADI DIGIT EIGHTqFIVErOURqNINEqONEqSEVENrIXqTHREErWO",
  "qZEROkLETTER AsAsIsUrBAsBAsHArCAsHArDAsDAtDAtHAsHArErGAsGAsHArHArIsIrJAsHAsJArKAsHArLArMArNAsGAsNA",
  "sYArOrPAsHArRAsRArSAsHArTAsHAsTAtHArUsUrVArYAkSIGN ANUSVARApNUKTApVIRAMAkVOWEL SIGN AAwIwUvEvIwIvOvU",
  "wUbIMONOcP SIGNcSSe MARKeING CAT FACE WITH CLOSED EYESiFACEm WITH CLOSED EYESsSMILING EYEScTE",
  "cWIFRUITbNEELING PERSONcOTbOALAcREAN STANDARD SYMBOLbRONOS"]

def namesL : List String := [
  "aL B BAR SYMBOLbAB COATdELcCROSSE STICK AND BALLcDDERdY BEETLEcNGUAGE TAGcO CANCELLATION MARK",
  "eDIGIT EIGHTkFIVElOURkNINEkONEkSEVENlIXkTHREElWOkZEROeELLIPSISeHO MOhNOeKO LAeLETTER BOlCOlDOlFO FAY",
  "pONoSUNGoTAMlHO SUNGoTAMlKHMU GOqNYOnO SUNGpTAMmOlLOn LINGpOOTlMOlNGOmOmYOlOlPALI BHAqCHAqDDAsHArHA",
  "qGHAqJHAqLLAqNNArYAqTTAsHAmHO SUNGpTAMmOlROlSANSKRIT SHAvSAmO SUNGoTAMlTHO SUNGpTAMmOlWOlYO",
  "eNIGGAHITAeSEMIVOWEL SIGN LOtNYOfIGN PALI VIRAMAeTONE MAI CATAWAnEKnTHOoIeVOWEL SIGN AqAqIqMqYpEqIpI",
  "qIpMAI KANuONpOpUqUpYqYcRGE BLUE CIRCLElDIAMONDlSQUAREhROWN CIRCLEmSQUAREgCIRCLEgDOWN TACK",
  "gGREEN CIRCLEmSQUAREgLEFT TRIANGLE OPERATORgONE DOT OVER TWO DOTS PUNCTUATION",
  "kRING OVER TWO RINGS PUNCTUATIONhRANGE CIRCLEnDIAMONDnSQUAREgPURPLE CIRCLEnSQUAREgRED CIRCLEkSQUARE",
  "gTRIPLE VERTICAL BAR OPERATORhWO DOTS OVER ONE DOT PUNCTUATIONkRINGS OVER ONE RING PUNCTUATION",
  "gUP TACKgYELLOW CIRCLEnSQUAREfR THANl OR EQUAL TOdI SIGNcST QUARTER MOONr SYMBOLsWITH FACE",
  "cTIN CAPITAL LETTER Aw WITH ACUTE+cBREVE+h AND ACUTE+mDOT BELOW+mGRAVE+mHOOK ABOVE+mTILDE+cCARON",
  "+dIRCUMFLEX+m AND ACUTE+rDOT BELOW+rGRAVE+rHOOK ABOVE+rTILDE+cDIAERESIS+l AND MACRON+dOT ABOVE",
  "+l AND MACRON+gBELOW+eUBLE GRAVE+cGRAVE+cHOOK ABOVE+cINVERTED BREVE+cMACRON+cOGONEK+cRING ABOVE",
  "+m AND ACUTE+hBELOW+cSTROKE+cTILDEwAwEx WITH ACUTE+dMACRONwFRICAN DwLPHAwNGLICANA WwOwUwV",
  "x WITH HORIZONTAL BARwYvBw WITH DOT ABOVE+gBELOW+cFLOURISH+cHOOK+cLINE BELOW+cSTROKE+cTOPBARwETA",
  "wROKEN LvCw WITH ACUTE+cBAR+cCARON+dEDILLA+j AND ACUTE+dIRCUMFLEX+cDOT ABOVE+cHOOK+cPALATAL HOOK",
  "+cSTROKEwHIwLOSED INSULAR GwONwUATRILLO+e WITH COMMAvDw WITH CARON+dEDILLA+dIRCUMFLEX BELOW",
  "+cDOT ABOVE+gBELOW+cHOOK+cLINE BELOW+cSHORT STROKE OVERLAY+dMALL LETTER Z+q WITH CARON+dTROKE",
  "+cTOPBARwZx WITH CARONvEw WITH ACUTE+cBREVE+cCARON+dEDILLA+j AND BREVE+dIRCUMFLEX+m AND ACUTE",
  "+rDOT BELOW+rGRAVE+rHOOK ABOVE+rTILDE+nBELOW+cDIAERESIS+dOT ABOVE+gBELOW+eUBLE GRAVE+cGRAVE",
  "+cHOOK ABOVE+cINVERTED BREVE+cMACRON+i AND ACUTE+nGRAVE+cOGONEK+cSTROKE+cTILDE+h BELOW",
  "wGYPTOLOGICAL AIN+kLEFwNGwSHwTxHwZHy REVERSEDzWITH CARONvFw WITH DOT ABOVE+cHOOK+cSTROKEvG",
  "w WITH ACUTE+cBREVE+cCARON+dEDILLA+dIRCUMFLEX+cDOT ABOVE+cHOOK+cMACRON+cOBLIQUE STROKE+cSTROKEwAMMA",
  "wHAwLOTTAL A+dI+dSTOP+dUvHw WITH BREVE BELOW+cCARON+dEDILLA+dIRCUMFLEX+cDESCENDER+dIAERESIS",
  "+dOT ABOVE+gBELOW+cHOOK+cSTROKEwALF HwENGwWAIRvIw WITH ACUTE+cBREVE+cCARON+dIRCUMFLEX+cDIAERESIS",
  "+l AND ACUTE+dOT ABOVE+gBELOW+eUBLE GRAVE+cGRAVE+cHOOK ABOVE+cINVERTED BREVE+cMACRON+cOGONEK+cSTROKE",
  "+cTILDE+h BELOWwNSULAR D+dF+dG+dR+dS+dTwOTAwSvJw WITH CIRCUMFLEX+dROSSED-TAIL+cSTROKEvKw WITH ACUTE",
  "+cCARON+dEDILLA+cDESCENDER+dIAGONAL STROKE+dOT BELOW+cHOOK+cLINE BELOW+cOBLIQUE STROKE+cSTROKE",
  "+i AND DIAGONAL STROKEvLw WITH ACUTE+cBAR+dELT+cCARON+dEDILLA+dIRCUMFLEX BELOW+cDOT BELOW",
  "+l AND MACRON+eUBLE BAR+cHIGH STROKE+cLINE BELOW+cMIDDLE DOT+jTILDE+cSMALL LETTER J+dTROKEwJvM",
  "w WITH ACUTE+cDOT ABOVE+gBELOW+cHOOKwIDDLE SCOTS S+b-WELSH LL+iVvNw WITH ACUTE+cCARON+dEDILLA",
  "+dIRCUMFLEX BELOW+cDESCENDER+dOT ABOVE+gBELOW+cGRAVE+cLEFT HOOK+dINE BELOW+dONG RIGHT LEG",
  "+cOBLIQUE STROKE+cSMALL LETTER J+cTILDEwJvOw WITH ACUTE+cBREVE+cCARON+dIRCUMFLEX+m AND ACUTE",
  "+rDOT BELOW+rGRAVE+rHOOK ABOVE+rTILDE+cDIAERESIS+l AND MACRON+dOT ABOVE+l AND MACRON+gBELOW",
  "+eUBLE ACUTE+jGRAVE+cGRAVE+cHOOK ABOVE+eRN+g AND ACUTE+lDOT BELOW+lGRAVE+lHOOK ABOVE+lTILDE",
  "+cINVERTED BREVE+cLONG STROKE OVERLAY+eOP+cMACRON+i AND ACUTE+nGRAVE+dIDDLE TILDE+cOGONEK",
  "+i AND MACRON+cSTROKE+i AND ACUTE+cTILDE+h AND ACUTE+mDIAERESIS+mMACRONwIwLD POLISH OwMEGAwOwPEN E",
  "+aOwUvPw WITH ACUTE+cDOT ABOVE+cFLOURISH+cHOOK+cSQUIRREL TAIL+dTROKE+i THROUGH DESCENDERvQ",
  "w WITH DIAGONAL STROKE+cSTROKE THROUGH DESCENDERvRw ROTUNDAxWITH ACUTE+cCARON+dEDILLA+cDOT ABOVE",
  "+gBELOW+l AND MACRON+eUBLE GRAVE+cINVERTED BREVE+cLINE BELOW+cOBLIQUE STROKE+cSTROKE+cTAIL",
  "wEVERSED C WITH DOT+eE+eHALF H+eOPEN EwUM ROTUNDAvSw WITH ACUTE+h AND DOT ABOVE+cCARON",
  "+h AND DOT ABOVE+dEDILLA+dIRCUMFLEX+dOMMA BELOW+cDOT ABOVE+gBELOW+l AND DOT ABOVE+cHOOK",
  "+cOBLIQUE STROKE+cSHORT STROKE OVERLAY+dWASH TAILwALTILLOwCHWAxRIPT GwHARP SwIGMOID SwMALL CAPITAL I",
  "+bQ WITH HOOK TAILvTw WITH CARON+dEDILLA+dIRCUMFLEX BELOW+dOMMA BELOW+cDIAGONAL STROKE+dOT ABOVE",
  "+gBELOW+cHOOK+cLINE BELOW+cRETROFLEX HOOK+cSTROKEwHORN+a WITH STROKE+m THROUGH DESCENDERwONE FIVE",
  "+aSIX+aTWOwRESILLOwURNED A+dLPHA+cH+cINSULAR G+cK+cL+cM+cT+cVwZvUw BARxWITH ACUTE+cBREVE+cCARON",
  "+dIRCUMFLEX+m BELOW+cDIAERESIS+l AND ACUTE+qCARON+qGRAVE+qMACRON+mBELOW+dOT BELOW+eUBLE ACUTE+jGRAVE",
  "+cGRAVE+cHOOK ABOVE+eRN+g AND ACUTE+lDOT BELOW+lGRAVE+lHOOK ABOVE+lTILDE+cINVERTED BREVE+cMACRON",
  "+i AND DIAERESIS+cOGONEK+cRING ABOVE+cSTROKE+cTILDE+h AND ACUTE+iBELOWwPSILONvV",
  "w WITH DIAGONAL STROKE+dOT BELOW+cHOOK+cTILDEwENDwISIGOTHIC ZwOLAPUK AE+dOE+dUEwYvWw WITH ACUTE",
  "+cCIRCUMFLEX+cDIAERESIS+dOT ABOVE+gBELOW+cGRAVE+cHOOKwYNNvXw WITH DIAERESIS+dOT ABOVEvYw WITH ACUTE",
  "+cCIRCUMFLEX+cDIAERESIS+dOT ABOVE+gBELOW+cGRAVE+cHOOK+g ABOVE+cLOOP+cMACRON+cSTROKE+cTILDEwOGHvZ",
  "w WITH ACUTE+cCARON+dIRCUMFLEX+cDESCENDER+dOT ABOVE+gBELOW+cHOOK+cLINE BELOW+cPALATAL HOOK+cSTROKE",
  "+dWASH TAILpIGATURE IJxOEhROSSgEPIGRAPHIC LETTER ARCHAIC MyI LONGAzNVERTED MyREVERSED F+hP",
  "ySIDEWAYS IgLETTER AINoLVEOLAR CLICKnBIDENTAL PERCUSSIVEpLABIAL CLICKwPERCUSSIVEnDENTAL CLICK",
  "nGLOTTAL STOPz WITH STROKEnINVERTED GLOTTAL STOP+i WITH CURL+oSTROKEnLATERAL CLICK",
  "nPHARYNGEAL VOICED FRICATIVEnRETROFLEX CLICK+c WITH RETROFLEX HOOKpVERSED ESH LOOP",
  "wGLOTTAL STOP WITH STROKEnSINOLOGICAL DOToMALL CAPITAL A+cE+bB+cARRED B+bC+bD+bE+cTH+cZH+bF+bG",
  "+c WITH HOOK+bH+bI+cNVERTED R+bJ+bK+bL+c WITH BELT+iSTROKE+bM+bN+bO+cE+cPEN O+cU+bP+bQ+bR",
  "+c WITH RIGHT LEG+cEVERSED N+kR+cUM+bS+bT+cURNED E+iG+iK+iM+iR+bU+bV+bW+bY+bZoTRETCHED Cy WITH CURL",
  "nTWO WITH STROKEnVOICED LARYNGEAL SPIRANTnWYNNnYRgSMALL CAPITAL LETTER I WITH STROKE+bU WITH STROKE",
  "mLETTER Au REVERSED-SCHWAvWITH ACUTE+aBREVE+f AND ACUTE+kDOT BELOW+kGRAVE+kHOOK ABOVE+kTILDE+aCARON",
  "+bIRCUMFLEX+k AND ACUTE+pDOT BELOW+pGRAVE+pHOOK ABOVE+pTILDE+aDIAERESIS+j AND MACRON+bOT ABOVE",
  "+j AND MACRON+eBELOW+cUBLE GRAVE+aGRAVE+aHOOK ABOVE+aINVERTED BREVE+aMACRON+aOGONEK+aRETROFLEX HOOK",
  "+bIGHT HALF RING+cNG ABOVE+k AND ACUTE+fBELOW+aSTROKE+aTILDEuAuEv WITH ACUTE+bMACRONuLPHA",
  "y WITH RETROFLEX HOOKuNGLICANA WuOuUuVv WITH HORIZONTAL BARuYtBu WITH DOT ABOVE+eBELOW+aFLOURISH",
  "+aHOOK+aLINE BELOW+aMIDDLE TILDE+aPALATAL HOOK+aSTROKE+aTOPBARuARRED ALPHA+aE+aOvSELINE ESHuETA",
  "uLACKLETTER E+fO+g WITH STROKEuOTTOM HALF OuROKEN LtCu WITH ACUTE+aBAR+aCARON+bEDILLA+h AND ACUTE",
  "+bIRCUMFLEX+bURL+aDOT ABOVE+aHOOK+aPALATAL HOOK+aRETROFLEX HOOK+aSTROKEuHIw WITH LOW LEFT SERIF",
  "+gRIGHT RINGuLOSED INSULAR G+aOMEGA+bPEN E+aREVERSED OPEN EuONuUATRILLO+c WITH COMMAtDu WITH CARON",
  "+bEDILLA+bIRCUMFLEX BELOW+bURL+aDOT ABOVE+eBELOW+aHOOK+e AND TAIL+aLINE BELOW+aMIDDLE TILDE",
  "+aPALATAL HOOK+aSHORT STROKE OVERLAY+bTROKE+aTAIL+bOPBARuB DIGRAPHuELTAvZH DIGRAPH",
  "+f WITH PALATAL HOOK+lRETROFLEX HOOKuOTLESS I+bJ+c WITH STROKE+o AND HOOKvUBLE R+b WITH CROSSED-TAIL",
  "+aTHORN+aWYNNuUMuZv DIGRAPH+d WITH CURL+jRETROFLEX HOOKwWITH CARONtEu WITH ACUTE+aBREVE+aCARON",
  "+bEDILLA+h AND BREVE+bIRCUMFLEX+k AND ACUTE+pDOT BELOW+pGRAVE+pHOOK ABOVE+pTILDE+lBELOW+aDIAERESIS",
  "+bOT ABOVE+eBELOW+cUBLE GRAVE+aFLOURISH+aGRAVE+aHOOK ABOVE+aINVERTED BREVE+aMACRON+g AND ACUTE",
  "+lGRAVE+aNOTCH+aOGONEK+aRETROFLEX HOOK+aSTROKE+aTILDE+f BELOWuGYPTOLOGICAL AIN+iLEFuNG",
  "w WITH CROSSED-TAIL+cPALATAL HOOKuSHw WITH CURL+cDOUBLE BAR+m AND CURL+cPALATAL HOOK+cRETROFLEX HOOK",
  "uTvHuZHw REVERSEDxWITH CARON+dURL+cPALATAL HOOK+cRETROFLEX HOOK+cTAILtFu WITH DOT ABOVE+aHOOK",
  "+aMIDDLE TILDE+aPALATAL HOOK+aSTROKEuENG DIGRAPH+f WITH TRILLtGu WITH ACUTE+aBREVE+aCARON+bEDILLA",
  "+bIRCUMFLEX+aDOT ABOVE+aHOOK+aMACRON+aOBLIQUE STROKE+aPALATAL HOOK+aSTROKEuAMMAuHAuLOTTAL A+bI+bSTOP",
  "+bUtHu WITH BREVE BELOW+aCARON+bEDILLA+bIRCUMFLEX+aDESCENDER+bIAERESIS+bOT ABOVE+eBELOW+aHOOK",
  "+aLINE BELOW+aPALATAL HOOK+aSTROKEuALF HuENGx WITH HOOKuVtIu WITH ACUTE+aBREVE+aCARON+bIRCUMFLEX",
  "+aDIAERESIS+j AND ACUTE+bOT BELOW+cUBLE GRAVE+aGRAVE+aHOOK ABOVE+aINVERTED BREVE+aMACRON+aOGONEK",
  "+aRETROFLEX HOOK+aSTROKE+g AND RETROFLEX HOOK+aTILDE+f BELOWuNSULAR D+bF+bG+bR+bS+bTvVERTED ALPHA",
  "+cOEuOTAx WITH STROKEwIFIED EuStJu WITH CARON+bIRCUMFLEX+bROSSED-TAIL+aSTROKEtKu WITH ACUTE+aCARON",
  "+bEDILLA+aDESCENDER+bIAGONAL STROKE+bOT BELOW+aHOOK+aLINE BELOW+aOBLIQUE STROKE+aPALATAL HOOK",
  "+aSTROKE+g AND DIAGONAL STROKEuRAtLu WITH ACUTE+aBAR+bELT+e AND PALATAL HOOK+aCARON+bEDILLA",
  "+bIRCUMFLEX BELOW+bURL+aDOT BELOW+j AND MACRON+cUBLE BAR+hMIDDLE TILDE+aFISHHOOK+aHIGH STROKE",
  "+aINVERTED LAZY S+aLINE BELOW+aMIDDLE DOT+hRING+hTILDE+aPALATAL HOOK+aRETROFLEX HOOK+o AND BELT",
  "+aSTROKEuAMBDA WITH STROKEuENIS FvZHx WITH RETROFLEX HOOKuJuONG Sz WITH DIAGONAL STROKE+gOT ABOVE",
  "+fHIGH STROKEuS DIGRAPHuUMuZ DIGRAPHtMu WITH ACUTE+aCROSSED-TAIL+aDOT ABOVE+eBELOW+aHOOK",
  "+aMIDDLE TILDE+aPALATAL HOOKuIDDLE SCOTS Sz-WELSH LL+gVuUMtNu PRECEDED BY APOSTROPHEvWITH ACUTE",
  "+aCARON+bEDILLA+bIRCUMFLEX BELOW+bROSSED-TAIL+bURL+aDESCENDER+bOT ABOVE+eBELOW+aGRAVE+aLEFT HOOK",
  "+bINE BELOW+bONG RIGHT LEG+aMIDDLE TILDE+aOBLIQUE STROKE+aPALATAL HOOK+aRETROFLEX HOOK+aTILDEuJuUMtO",
  "u WITH ACUTE+aBREVE+aCARON+bIRCUMFLEX+k AND ACUTE+pDOT BELOW+pGRAVE+pHOOK ABOVE+pTILDE+aDIAERESIS",
  "+j AND MACRON+bOT ABOVE+j AND MACRON+eBELOW+cUBLE ACUTE+hGRAVE+aGRAVE+aHOOK ABOVE+cRN+e AND ACUTE",
  "+jDOT BELOW+jGRAVE+jHOOK ABOVE+jTILDE+aINVERTED BREVE+aLONG STROKE OVERLAY+cOP+cW RING INSIDE",
  "+aMACRON+g AND ACUTE+lGRAVE+aOGONEK+g AND MACRON+aRETROFLEX HOOK+aSTROKE+g AND ACUTE+aTILDE",
  "+f AND ACUTE+kDIAERESIS+kMACRONuIuLD POLISH OuMEGAuOuPEN Ez WITH RETROFLEX HOOKyO",
  "z WITH RETROFLEX HOOK+fSTROKEzEuUtPu WITH ACUTE+aDOT ABOVE+aFLOURISH+aHOOK+aMIDDLE TILDE",
  "+aPALATAL HOOK+aSQUIRREL TAIL+bTROKE+g THROUGH DESCENDERuHItQu WITH DIAGONAL STROKE+aHOOK+e TAIL",
  "+aSTROKE THROUGH DESCENDERuP DIGRAPHtRu ROTUNDAvWITH ACUTE+aCARON+bEDILLA+bROSSED-TAIL+aDOT ABOVE",
  "+eBELOW+j AND MACRON+cUBLE GRAVE+aFISHHOOK+i AND MIDDLE TILDE+nPALATAL HOOK+aINVERTED BREVE",
  "+aLINE BELOW+bONG LEG+aMIDDLE TILDE+aOBLIQUE STROKE+aPALATAL HOOK+aSTROKE+aTAILzOUT HANDLEuAMS HORN",
  "uEVERSED C+d WITH DOT+cE+dNG+cHALF H+cK+cOPEN E+i WITH HOOK+oRETROFLEX HOOK+cR WITH FISHHOOK",
  "+cSCRIPT GuUMw ROTUNDAtSu WITH ACUTE+f AND DOT ABOVE+aCARON+f AND DOT ABOVE+bEDILLA+bIRCUMFLEX",
  "+bOMMA BELOW+bURL+aDOT ABOVE+eBELOW+j AND DOT ABOVE+aHOOK+aMIDDLE TILDE+aOBLIQUE STROKE",
  "+aPALATAL HOOK+aSHORT STROKE OVERLAY+bWASH TAILuAKHA YATvLTILLOuCHWAy WITH HOOK+eRETROFLEX HOOK",
  "vRIPT G+b WITH CROSSED-TAIL+aR+b WITH RINGuHARP SuIDEWAYS DIAERESIZED U+cO+d WITH STROKE+dPEN O",
  "+cTURNED M+cUvGMOID SuQUAT REVERSED ESHuTIRRUP RtTu WITH CARON+bEDILLA+bIRCUMFLEX BELOW+bOMMA BELOW",
  "+bURL+aDIAERESIS+dGONAL STROKE+bOT ABOVE+eBELOW+aHOOK+e AND RETROFLEX HOOK+aLINE BELOW+aMIDDLE TILDE",
  "+aPALATAL HOOK+aRETROFLEX HOOK+aSTROKEuAILLESS PHIuC DIGRAPH WITH CURLuESH DIGRAPH",
  "+f WITH PALATAL HOOK+lRETROFLEX HOOKuH WITH STRIKETHROUGHvORNy WITH STROKE+k THROUGH DESCENDER",
  "uONE FIVEySIXyTWOvP HALF OuRESILLOuS DIGRAPH+d WITH RETROFLEX HOOKuUMvRNED A+bE+bLPHA+aDELTA+aE+aG",
  "+aH+b WITH FISHHOOK+p AND TAIL+aI+bNSULAR G+aK+aL+aM+b WITH LONG LEG+aO OPEN-O+i WITH STROKE+bE",
  "+c WITH HORIZONTAL STROKE+iSTROKE+bPEN E+aR+b WITH HOOK+hLONG LEG+p AND RETROFLEX HOOK+hMIDDLE TILDE",
  "+hPALATAL HOOK+hTAIL+aT+b WITH CURL+aUI+aV+aW+aY+b WITH BELTuZtUu BARy WITH SHORT RIGHT LEG",
  "vWITH ACUTE+aBREVE+aCARON+bIRCUMFLEX+k BELOW+aDIAERESIS+j AND ACUTE+oCARON+oGRAVE+oMACRON+kBELOW",
  "+bOT BELOW+cUBLE ACUTE+hGRAVE+aGRAVE+aHOOK ABOVE+cRN+e AND ACUTE+jDOT BELOW+jGRAVE+jHOOK ABOVE",
  "+jTILDE+aINVERTED BREVE+aLEFT HOOK+aMACRON+g AND DIAERESIS+aOGONEK+aRETROFLEX HOOK+bING ABOVE",
  "+aSHORT RIGHT LEG+bTROKE+aTILDE+f AND ACUTE+gBELOWuEuIuMuOuPSILON+a WITH STROKEtVu WITH CURL",
  "+aDIAGONAL STROKE+bOT BELOW+aHOOK+aPALATAL HOOK+aRIGHT HOOK+aTILDEuENDuISIGOTHIC ZuOLAPUK AE+bOE+bUE",
  "uYtWu WITH ACUTE+aCIRCUMFLEX+aDIAERESIS+bOT ABOVE+eBELOW+aGRAVE+aHOOK+aRING ABOVEtXu WITH DIAERESIS",
  "+bOT ABOVE+aLONG LEFT LEG+n AND LOW RIGHT RING+oWITH SERIF+cW RIGHT RING+aPALATAL HOOKtYu WITH ACUTE",
  "+aCIRCUMFLEX+aDIAERESIS+bOT ABOVE+eBELOW+aGRAVE+aHOOK+e ABOVE+aLOOP+aMACRON+aRING ABOVE",
  "+aSHORT RIGHT LEG+bTROKE+aTILDEuOGHtZu WITH ACUTE+aCARON+bIRCUMFLEX+bURL+aDESCENDER+bOT ABOVE+eBELOW",
  "+aHOOK+aLINE BELOW+aMIDDLE TILDE+aPALATAL HOOK+aRETROFLEX HOOK+aSTROKE+bWASH TAILnIGATURE FFxIxLwIwL",
  "vIJvLONG S TvOEvSThUBSCRIPT SMALL LETTER A+dE+dH+dI+dJ+dK+dL+dM+dN+dO+dP+dR+dS+eCHWA+dT+dU+dV+dX",
  "bEAF FLUTTERING IN WINDeY GREENcDGERcFT AND LOWER AND RIGHT TRIANGULAR THREE QUARTERS BLOCK",
  "pONE EIGHTH BLOCKjRIGHT DOUBLE TURNSTILEpTACKqRIANGULAR HALF BLOCK",
  "jUPPER AND RIGHT TRIANGULAR THREE QUARTERS BLOCKpONE EIGHTH BLOCKhGER BUBBLEiLE BRACKETs WITH DOT",
  "gRC LESS-THAN BRACKEThROW WITH CIRCLED PLUSqSMALL CIRCLEfBARB DOWN RIGHT BARB DOWN HARPOON",
  "+aUP HARPOONkUP RIGHT BARB DOWN HARPOONyUP HARPOONgLACK LENTICULAR BRACKETlTORTOISE SHELL BRACKET",
  "fCEILINGgLOSED ENTRYgORNER BRACKETgURLY BRACKETs LOWER HOOKtMIDDLE PIECEtUPPER HOOK",
  "fDOTTED SUBSTITUTION BRACKEThUBLE ANGLE BRACKETmPARENTHESISmQUOTATION MARKmWIGGLY FENCEfFISH TAIL",
  "hVE EIGHTHS BLOCKgLOORfHALF BLACK CIRCLEqSTARmOCKkCIRCLEq WITH DOTwFOUR DOTSwTHREE DOTSxWO DOTS",
  "kFOLDERkINVERSE MEDIUM SHADE AND RIGHT HALF BLOCKkMEDIUM SHADEkRUNNING MANhND TELEPHONE RECEIVER",
  "fLOW PARAPHRASE BRACKETgUGGAGEfMULTIMAPfNORMAL FACTOR SEMIDIRECT PRODUCTfONE EIGHTH BLOCK",
  "jQUARTER BLOCKgUTER JOINfPARENTHESISq EXTENSIONrLOWER HOOKrUPPER HOOKfRAISED OMISSION BRACKET",
  "gIGHT ARROWq THROUGH SMALL CIRCLErWITH DOUBLE VERTICAL STROKEwSTROKEwVERTICAL STROKElBLACK ARROW",
  "lDOUBLE ARROWx WITH STROKE+dVERTICAL STROKElOPEN-HEADED ARROWlSANS-SERIF ARROWlTRIANGLE-HEADED ARROW",
  "lWAVE ARROWmHITE ARROWfS-SHAPED BAG DELIMITERgEMIDIRECT PRODUCThVEN EIGHTHS BLOCKgIDEWAYS U BRACKET",
  "hNGLE QUOTATION MARKgPEECH BUBBLEgQUARE BRACKETt EXTENSIONuLOWER CORNERuUPPER CORNER",
  "uWITH DOUBLE STROKEzQUILLzSTROKEzTICK IN BOTTOM CORNER+hTOP CORNERzUNDERBARgUBSTITUTION BRACKETfTACK",
  "gHIRD WHITE RIGHT POINTING INDEXhOUGHT BUBBLEhREE EIGHTHS BLOCKlQUARTERS BLOCKgORTOISE SHELL BRACKET",
  "gRANSPOSITION BRACKEThIANGLE BESIDE VERTICAL BARlULAR ONE QUARTER BLOCKfVERTICAL BAR WITH QUILL",
  "pOX LINEfWHITE CORNER BRACKETmURLY BRACKETlLENTICULAR BRACKETlPARENTHESISlSQUARE BRACKET",
  "lTORTOISE SHELL BRACKETgIGGLY FENCEgRITING HANDe-FACING ARMENIAN ETERNITY SIGNmFISTmSVASTI SIGN",
  "x WITH DOTSfHANDED INTERLACED PENTAGRAMfPOINTING ANGLE BRACKEToCURVED ANGLE BRACKET",
  "oDOUBLE ANGLE QUOTATION MARKoMAGNIFYING GLASSfSHADED WHITE RIGHTWARDS ARROW",
  "gIDE ARC ANTICLOCKWISE ARROWfTO-RIGHT EMBEDDINGoISOLATEoMARKoOVERRIDEeWARDS ARROW",
  "p ABOVE ALMOST EQUAL TOwREVERSE ALMOST EQUAL TO+eTILDE OPERATORwSHORT RIGHTWARDS ARROW",
  "wTILDE OPERATORrND UPPER AND LOWER ONE EIGHTH BLOCKqFROM BARy TO BLACK DIAMONDqOVER RIGHTWARDS ARROW",
  "qTHROUGH LESS-THANySUBSETyXrO BARw OVER RIGHTWARDS ARROW TO BARuLACK DIAMONDqWITH DOTTED STEM",
  "xUBLE VERTICAL STROKEvEQUILATERAL ARROWHEADvHOOKvLARGE TRIANGLE ARROWHEADwOOP",
  "vMEDIUM TRIANGLE ARROWHEADvNOTCHED TAILvPLUS BELOWvSMALL EQUILATERAL ARROWHEAD+bTRIANGLE ARROWHEAD",
  "wTROKEvTAILz WITH DOUBLE VERTICAL STROKE+fVERTICAL STROKEwIP DOWNWARDSzUPWARDSvVERTICAL STROKEp-TAIL",
  "kBACK-TILTED SHADOWED WHITE ARROWlLACK ARROWqCIRCLED WHITE ARROWlOTTOM-SHADED WHITE ARROW",
  "kCOMPRESSED ARROWkDASHED ARROWlOUBLE ARROWw FROM BARxWITH STROKE+cVERTICAL STROKEw-TAILrDASH ARROW",
  "kFINGER-POST ARROWlRONT-TILTED SHADOWED WHITE ARROWkHANDmRPOON OVER RIGHTWARDS HARPOON",
  "sWITH BARB DOWN ABOVE RIGHTWARDS HARPOON WITH BARB DOWN+hBELOW LONG DASH+hFROM BAR+hTO BAR+gWARDS",
  "+cUP ABOVE LEFTWARDS HARPOON WITH BARB DOWN+mONG DASH+lRIGHTWARDS HARPOON WITH BARB UP+fFROM BAR",
  "+fTO BAR+eWARDSlEAVY ARROWqCOMPRESSED ARROWkLEFT-SHADED WHITE ARROWkOPEN-HEADED ARROWkPAIRED ARROWS",
  "kQUADRUPLE ARROWkRIGHT-SHADED WHITE ARROWlOCKETkSANS-SERIF ARROWlQUARED ARROWnIGGLE ARROW",
  "kTOP SHADED WHITE ARROWlRIANGLE ARROWHEADs-HEADED ARROW+f OVER RIGHTWARDS TRIANGLE-HEADED ARROW",
  "+gTO BAR+gWITH BOLD SHAFT+lDOUBLE HORIZONTAL STROKE+sVERTICAL STROKE+lHEAVY SHAFT",
  "+lLONG TIP DOWNWARDS+uUPWARDS+lMEDIUM SHAFT+lNARROW SHAFT+lVERY HEAVY SHAFT+aDASHED ARROW",
  "+aPAIRED ARROWSnPLE ARROWrDASH ARROWlWO HEADED ARROWn-HEADED ARROW FROM BAR",
  "+bWITH DOUBLE VERTICAL STROKE+gTAIL+k WITH DOUBLE VERTICAL STROKE+qVERTICAL STROKE",
  "+hRIANGLE ARROWHEADS+gVERTICAL STROKEvTRIPLE DASH ARROWkWAVE ARROWlHITE ARROW",
  "v WITHIN TRIANGLE ARROWHEADcGcMONcOdPARDcPCHA CONSONANT SIGN KxANGwLwMwNxYIN-DOwPwRwThDIGIT EIGHT",
  "nFIVEoOURnNINEnONEnSEVENoIXnTHREEoWOnZEROhLETTER AoBApLAoCApHAoDApDApZAoFApLAoGApLAoHApLAoJAoKApHA",
  "pLAoLAoMApLAoNApGApYAoPApHApLAoRAoSApHAoTApHApSAqHApTAqHAoVAoWAoYAhPUNCTUATION CER-WA",
  "tNYET THYOOM TA-ROLtTA-ROLuSHOOKz CER-WAhSIGN NUKTAmRANiUBJOINED LETTER RAyYAhVOWEL SIGN AAsEsIsOtO",
  "sUtUcSS-THAN ABOVE DOUBLE-LINE EQUAL ABOVE GREATER-THANqGREATER-THAN ABOVE DOUBLE-LINE EQUAL",
  "qLEFTWARDS ARROWqSIMILAR ABOVE GREATER-THANyOR EQUAL",
  "rLANTED EQUAL ABOVE GREATER-THAN ABOVE SLANTED EQUALlND NOT APPROXIMATEoSINGLE-LINE NOT EQUAL TO",
  "kBUT NOT EQUAL TOvIVALENT TOkCLOSED BY CURVEz ABOVE SLANTED EQUALkEQUAL TO OR GREATER-THAN",
  "kOR APPROXIMATEnEQUAL TOqIVALENT TOnGREATER-THANnSLANTED EQUAL TO+d WITH DOT ABOVE+s RIGHT+nINSIDE",
  "lVER EQUAL TOkSIGNkWITH CIRCLE INSIDEpDOTpQUESTION MARK ABOVEcVEL SLIDERbFbIBRA",
  "cGATURE OPEN ET ORNAMENTdHT CHECK MARKgEIGHT SPOKED ASTERISKgFIVE POINTED BLACK STARlSPOKED ASTERISK",
  "hOUR POINTED BLACK CUSPzSTARgGREEK CROSSgLEFT TORTOISE SHELL BRACKET ORNAMENTgRAIL",
  "hIGHT TORTOISE SHELL BRACKET ORNAMENTgSALTIREhHADEhIX SPOKED ASTERISKgTHREE POINTED BLACK STAR",
  "hWELVE POINTED BLACK STARgVERTICAL BARgWHITE SQUAREfNINGj MOODo BUBBLEcMBU DIGIT EIGHTmFIVEnOURmNINE",
  "mONEmSEVENnIXmTHREEnWOmZEROgEXCLAMATION MARKgLETTER BAoHAnCAoHAnDAoHAnGAoHAoYANnHAnJAoHAnKAoHAnLAnMA",
  "nNAoGAnPAoHAnRAnSAoHAoSAnTAoHAoRAnWAnYApNgQUESTION MARKgSIGN KEMPHRENGlLOOlMUKPHRENGlSA-I",
  "hMALL LETTER ANUSVARAtKAtLAtMAtNAuGAtPAtRAtTAhUBJOINED LETTER RAxWAxYAgVOWEL SIGN AsIsUrEsErIrOsOrU",
  "l-CARRIER LETTERdITED LIABILITY SIGNcNE FEEDfINTEGRATION NOT INCLUDING THE POLE",
  "rWITH RECTANGULAR PATH AROUND POLEwSEMICIRCULAR PATH AROUND POLEfSEPARATORfTABULATIONp SET",
  "eAR A SIGN A028Bp100-102q20Bq31Cp301r2r3r4r5r6r7r8r9AsBsCq10r1r2r3AsBsCr4r5r6r7r8r9q20r1r2r3r4r5r6r7",
  "r8r9q30r1r2r3r4r5r6r7r8r9q40r1r2r3r4r5r6r7r8r9q50r1r2r3r4r5r6r7r8r9q60r1r2r3r4r5r6r7r8r9q70r1",
  "p400-VASr1-VASr2-VASr3-VASr4-VASr5-VASr6-VASr7-VASr8-VASr9-VASq10-VASr1-VASr2-VASr3-VASr4-VASr5-VAS",
  "r6-VASr7-VASr8-VASp501r2r3r4r5r6r8r9q10r1r2r3r5r6q20r1r3r4r5r6r7r8r9q30r1r2r4r5r6r7r8r9q40r1r2r5r7r8",
  "r9q50r1r2r3r4r5r6r7r9q63r4r5r6r8r9q70r1r2r3r4r5r6r7r8r9q80r1r2r3r4r5r6r7r8r9q91r2r4r5r6r8p600r1r2r3",
  "r4r6r8r9q10r1r2r3r4r5r6r7r8r9q20r1r2r3r4r6r7r8r9q34r7r8q40r2r3r4r5r6r8r9q51r2r3r4r5r6r7r8r9q60r1r2r3",
  "r4p701 Ar2 Br3 Dr4 Er5 Fr6 Hr7 Jr8 Kr9 Ls-2 L2t3 L3t4 L4t6 L6q10 Wr1 Xr2 Yr3 OMEGAr4 ABBr5 BBr7 DD",
  "q26 EYYYq32 JEp800r1r2r3r4r5r6r7pB001s2s3s4s5s6s7s8s9r10s1s3s6s7r20s1tFtMs2tFtMs3tMs4s6s7s8s9r30s1s4",
  "s7s8s9r40s1s4s5s6s7s8s9r50s1s3s4s5s6s7s8s9r60s1s5s6s7s9r70s3s4s6s7s8s9r80s1s2s5s6s7q118r20s2s3r31AtB",
  "r64r71r80s8r91hB IDEOGRAM B100 MANv2 WOMANv4 DEERv5 EQUIDwF MAREwM STALLIONv6F EWEwM RAMv7F SHE-GOAT",
  "wM HE-GOATv8F SOWwM BOARv9F COWwM BULLu20 WHEATv1 BARLEYv2 OLIVEv3 SPICEv5 CYPERUSu30 OILv1 WINEv2",
  "u40 BRONZEv1 GOLDv2v5 WOOLv6u50v1 HORNv2v3v4v7v8v9 CLOTHu60v1v2 GARMENTv3 ARMOURv4v5v6v7v8v9u70v1v2",
  "v3 MONTHv4v6 TREEv7v8v9u80v1v2v3v4v5v9u90v1 HELMETt220 FOOTSTOOLv5 BATHTUBu30 SPEARv1 ARROWv2",
  "v3 SWORDv4v6u40 WHEELED CHARIOTv1 CHARIOTv2 CHARIOT FRAMEv3 WHEELv5v6v8v9u51v2v3v4 DARTv5v6v7v8v9",
  "sVESSEL B155+a200+c1+c2+c3+c4+c5+c6+c7+c8+c9+b10+c1+c2+c3+c4+c5+c6+c7+c8+c9+b21+c2+c6+c7+c8+c9+b50",
  "+a305jMONOGRAM B127 KAPOv8 KANAKOu33 AREPAv5 MERIu56 TURO2t247 DIPTEjSYLLABLE B001 DAv2 ROv3 PAv4 TE",
  "v5 TOv6 NAv7 DIv8 Av9 SEu10 Uv1 POv2 SOv3 MEv4 DOv5 MOv6 QAv7 ZAu20 ZOv1 QIv3 MUv4 NEv5 A2v6 RUv7 RE",
  "v8 Iv9 PU2u30 NIv1 SAv2 QOv3 RA3v6 JOv7 TIv8 Ev9 PIu40 WIv1 SIv2 WOv3 A3v4 KEv5 DEv6 JEv8 NWAu50 PU",
  "v1 DUv2 NOv3 RIv4 WAv5 NUv7 JAv8 SUv9 TAu60 RAv1 Ov2 PTEv5 JUv6 TA2v7 KIv8 RO2v9 TUu70 KOv1 DWEv2 PE",
  "v3 MIv4 ZEv5 WEv6 RA2v7 KAv8 QEu80 MAv1 KUv5 AUv7 TWEu90 DWOv1 TWOlMBOL B018t9s22s34s47t9s56s63t4s79",
  "s82t3t6t9dK SYMBOLeED PAPERCLIPScON FACEcPSeTICKcRA SIGNcSU LETTER AnEmBAmCAnHAmDAnZAmEnUmFAmGAnHA",
  "mHAnHAmImJAmKAnHAmLAmMAmNAnGAmOnEmPAnHAmSAnHAmTAnHAnONE MYA BOvCYAvJEUvNAvTIrNA POnSAoHAmUnEnHmWAmXA",
  "mYAnHAmZAnHAfPUNCTUATION COMMArFULL STOPcVRE TOURNOIS SIGNcZARDbLAMAbOBSTERcCKe WITH INK PEN",
  "eING-SHIFT ONEoZEROcGICAL ANDl WITH DOT ABOVEtUBLE OVERBARyUNDERBARrHORIZONTAL DASHrMIDDLE STEM",
  "rUNDERBARiORk OVERLAPPING LOGICAL ANDlWITH DOT ABOVEsUBLE OVERBARxUNDERBARqHORIZONTAL DASH",
  "qMIDDLE STEMcLLIPOPcNG DASH FROM LEFT MEMBER OF DOUBLE VERTICALgIVISIONgRUMfLEFT RIGHT ARROW",
  "qDOUBLE ARROWkTACKjWARDS ARROWu FROM BARpDOUBLE ARROW+b FROM BARpSQUIGGLE ARROWfRIGHT TACK",
  "kWARDS ARROWv FROM BARqDOUBLE ARROW+c FROM BARqSQUIGGLE ARROWcTION BOTTLEdUScUDLY CRYING FACE",
  "cVE HOTELfLETTERcW ASTERISKeBATTERYfRIGHTNESS SYMBOLeDOUBLE PRIME QUOTATION MARKeKAVYKAk WITH DOT",
  "eLINEdER BLADE SCISSORSgFIVE EIGHTHS BLOCKgHALF BLOCKlCIRCLElINVERSE WHITE CIRCLElMEDIUM SHADE",
  "gLEFT BALLPOINT PENmLOCK DIAGONAL LOWER MIDDLE LEFT TO LOWER CENTRE++bRIGHT",
  "+aUPPER CENTRE TO LOWER MIDDLE RIGHT+wRIGHT+qUPPER MIDDLE RIGHT+gLEFT TO LOWER CENTRE+uMIDDLE RIGHT",
  "+oUPPER MIDDLE RIGHT+gMIDDLE LEFT TO LOWER CENTRE++bMIDDLE RIGHT++bRIGHTlCRAYONlFOUNTAIN PEN",
  "lPAINTBRUSHmENCILlQUADRANT CIRCULAR ARClSEMICIRCULAR ANTICLOCKWISE ARROWlTRIANGLErULAR MEDIUM SHADE",
  "gONE EIGHTH BLOCKkQUARTER BLOCKgRIGHT BLOCK DIAGONAL LOWER CENTRE TO LOWER MIDDLE RIGHT",
  "+rUPPER MIDDLE RIGHT+xRIGHT+hLEFT TO LOWER MIDDLE RIGHT+pUPPER CENTRE+vMIDDLE RIGHT",
  "+hMIDDLE LEFT TO UPPER CENTRE++cMIDDLE RIGHT++cRIGHT+bUPPER MIDDLE LEFT TO UPPER CENTRE++cRIGHT",
  "mCORNER WITH DOTmDROP-SHADOWED WHITE SQUAREmPENCILmQUADRANT CIRCULAR ARC",
  "mSEMICIRCULAR CLOCKWISE ARROWnHADOWED WHITE CIRCLE+bSQUAREmTRIANGLEsULAR MEDIUM SHADE",
  "gSEVEN EIGHTHS BLOCKgTHREE EIGHTHS BLOCKmQUARTERS BLOCKhRIANGULAR ONE QUARTER BLOCKcZENGE",
  "h DIVIDED BY HORIZONTAL RULEbREcIcMcObUGGAGEcNGSbYCIAN LETTER ApNoBpHoDoEpNoGoHoIoJoKpKoLoMpMoNpNoP",
  "oQoRoSoTpHpToUoWoXoZcDIAN LETTER ApNoBoCoDoEpNoFoGoIoKoLpYoMoNpNoOoQoRoSpSoTpToUoVoYhTRIANGULAR MARK",
  "cING FACE"]

end TreeLint.Text.CharacterName
