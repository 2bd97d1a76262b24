import GuestBridge.Posix.SystemLibrary.NameFamily

/-!
Mangled symbols of the standard library of C++ for members of streams and their buffers.
-/
namespace GuestBridge.Posix.SystemLibrary

def streamSymbols : List String := families [
  ("_ZNKS", ["i6gcountEv i6sentrycvbEv o6sentrycvbEv"]),
  ("_ZNKSt", ["8ios_base7failure4whatEv 8ios_base7failureB5cxx114whatEv"]),
  ("_ZNKSt1", [
    "0istrstream5rdbufEv 0ostrstream5rdbufEv 0ostrstream6pcountEv 2strstreambuf6pcountEv"]),
  ("_ZNKSt13basic_", [
    "filebufIcSt11char_traitsIcEE7is_openEv filebufIwSt11char_traitsIwEE7is_openEv",
    "fstreamIcSt11char_traitsIcEE5rdbufEv fstreamIcSt11char_traitsIcEE7is_openEv",
    "fstreamIwSt11char_traitsIwEE5rdbufEv fstreamIwSt11char_traitsIwEE7is_openEv",
    "istreamIwSt11char_traitsIwEE6gcountEv istreamIwSt11char_traitsIwEE6sentrycvbEv",
    "ostreamIwSt11char_traitsIwEE6sentrycvbEv"]),
  ("_ZNKSt14basic_", [
    "ifstreamIcSt11char_traitsIcEE5rdbufEv ifstreamIcSt11char_traitsIcEE7is_openEv",
    "ifstreamIwSt11char_traitsIwEE5rdbufEv ifstreamIwSt11char_traitsIwEE7is_openEv",
    "ofstreamIcSt11char_traitsIcEE5rdbufEv ofstreamIcSt11char_traitsIcEE7is_openEv",
    "ofstreamIwSt11char_traitsIwEE5rdbufEv ofstreamIwSt11char_traitsIwEE7is_openEv"]),
  ("_ZNKSt15basic_str", [
    "ingbufIcSt11char_traitsIcESaIcEE3strEv ingbufIwSt11char_traitsIwESaIwEE3strEv"]),
  ("_ZNKSt15basic_streambufIcSt11char_traitsIcEE", [
    "4gptrEv 4pptrEv 5ebackEv 5egptrEv 5epptrEv 5pbaseEv 6getlocEv"]),
  ("_ZNKSt15basic_streambufIwSt11char_traitsIwEE", [
    "4gptrEv 4pptrEv 5ebackEv 5egptrEv 5epptrEv 5pbaseEv 6getlocEv"]),
  ("_ZNKSt18basic_stringstreamI", [
    "cSt11char_traitsIcESaIcEE3strEv cSt11char_traitsIcESaIcEE5rdbufEv",
    "wSt11char_traitsIwESaIwEE3strEv wSt11char_traitsIwESaIwEE5rdbufEv"]),
  ("_ZNKSt9", ["strstream5rdbufEv strstream6pcountEv"]),
  ("_ZNKSt9basic_iosIcSt11char_traitsIcEE", [
    "10exceptionsEv 3badEv 3eofEv 3tieEv 4failEv 4fillEv 4goodEv 5rdbufEv 5widenEc 6narrowEcc",
    "7rdstateEv cvPvEv cvbEv ntEv"]),
  ("_ZNKSt9basic_iosIwSt11char_traitsIwEE", [
    "10exceptionsEv 3badEv 3eofEv 3tieEv 4failEv 4fillEv 4goodEv 5rdbufEv 5widenEc 6narrowEwc",
    "7rdstateEv cvPvEv cvbEv ntEv"]),
  ("_ZNS", [
    "d4swapERSd dC1EOSd dC1EPSt15basic_streambufIcSt11char_traitsIcEE dC1Ev dC2EOSd",
    "dC2EPSt15basic_streambufIcSt11char_traitsIcEE dC2Ev dD0Ev dD1Ev dD2Ev daSEOSd"]),
  ("_ZNSi", [
    "3getEPcl 3getEPclc 3getERSt15basic_streambufIcSt11char_traitsIcEE",
    "3getERSt15basic_streambufIcSt11char_traitsIcEEc 3getERc 3getEv 4peekEv 4readEPcl 4swapERSi",
    "4syncEv 5seekgESt4fposI11__mbstate_tE 5seekgElSt12_Ios_Seekdir 5tellgEv 5ungetEv 6ignoreEl",
    "6ignoreEli 6ignoreEv 6sentryC1ERSib 6sentryC2ERSib 7getlineEPcl 7getlineEPclc 7putbackEc",
    "8readsomeEPcl C1EOSi C1EPSt15basic_streambufIcSt11char_traitsIcEE C1Ev C2EOSi",
    "C2EPSt15basic_streambufIcSt11char_traitsIcEE C2Ev D0Ev D1Ev D2Ev aSEOSi"]),
  ("_ZNSi10_M_extractI", [
    "PvEERSiRT_ bEERSiRT_ dEERSiRT_ eEERSiRT_ fEERSiRT_ jEERSiRT_ lEERSiRT_ mEERSiRT_ tEERSiRT_",
    "xEERSiRT_ yEERSiRT_"]),
  ("_ZNSirsE", [
    "PFRSiS_E PFRSt8ios_baseS0_E PFRSt9basic_iosIcSt11char_traitsIcEES3_E",
    "PSt15basic_streambufIcSt11char_traitsIcEE RPv Rb Rd Re Rf Ri Rj Rl Rm Rs Rt Rx Ry"]),
  ("_ZNSo", [
    "3putEc 4swapERSo 5flushEv 5seekpESt4fposI11__mbstate_tE 5seekpElSt12_Ios_Seekdir 5tellpEv",
    "5writeEPKcl 6sentryC1ERSo 6sentryC2ERSo 6sentryD1Ev 6sentryD2Ev 8_M_writeEPKcl C1EOSo",
    "C1EPSt15basic_streambufIcSt11char_traitsIcEE C1ERSd C1Ev C2EOSo",
    "C2EPSt15basic_streambufIcSt11char_traitsIcEE C2ERSd C2Ev D0Ev D1Ev D2Ev aSEOSo"]),
  ("_ZNSo9_M_insertI", [
    "PKvEERSoT_ bEERSoT_ dEERSoT_ eEERSoT_ lEERSoT_ mEERSoT_ xEERSoT_ yEERSoT_"]),
  ("_ZNSolsE", [
    "Dn PFRSoS_E PFRSt8ios_baseS0_E PFRSt9basic_iosIcSt11char_traitsIcEES3_E PKv",
    "PSt15basic_streambufIcSt11char_traitsIcEE b d e f i j l m s t x y"]),
  ("_ZNSt10istrstream", [
    "3strEv C1EPKc C1EPKcl C1EPc C1EPcl C2EPKc C2EPKcl C2EPc C2EPcl D0Ev D1Ev D2Ev"]),
  ("_ZNSt10ostrstream", [
    "3strEv 6freezeEb C1EPciSt13_Ios_Openmode C1Ev C2EPciSt13_Ios_Openmode C2Ev D0Ev D1Ev D2Ev"]),
  ("_ZNSt12strstreambuf", [
    "3strEv 6freezeEb 6setbufEPcl 7_M_freeEPc 7seekoffElSt12_Ios_SeekdirSt13_Ios_Openmode",
    "7seekposESt4fposI11__mbstate_tESt13_Ios_Openmode 8_M_allocEm 8_M_setupEPcS0_l 8overflowEi",
    "9pbackfailEi 9underflowEv C1EPFPvmEPFvS0_E C1EPKal C1EPKcl C1EPKhl C1EPalS0_ C1EPclS0_",
    "C1EPhlS0_ C1El C2EPFPvmEPFvS0_E C2EPKal C2EPKcl C2EPKhl C2EPalS0_ C2EPclS0_ C2EPhlS0_ C2El",
    "D0Ev D1Ev D2Ev"]),
  ("_ZNSt13basic_filebufIcSt11char_traitsIcEE", [
    "13_M_set_bufferEl 14_M_get_ext_posER11__mbstate_t 15_M_create_pbackEv 16_M_destroy_pbackEv",
    "19_M_terminate_outputEv 22_M_convert_to_externalEPcl 26_M_destroy_internal_bufferEv",
    "27_M_allocate_internal_bufferEv 4openEPKcSt13_Ios_Openmode",
    "4openERKNSt7__cxx1112basic_stringIcS1_SaIcEEESt13_Ios_Openmode 4openERKSsSt13_Ios_Openmode",
    "4swapERS2_ 4syncEv 5closeEv 5imbueERKSt6locale 6setbufEPcl 6xsgetnEPcl 6xsputnEPKcl",
    "7_M_seekElSt12_Ios_Seekdir11__mbstate_t 7seekoffElSt12_Ios_SeekdirSt13_Ios_Openmode",
    "7seekposESt4fposI11__mbstate_tESt13_Ios_Openmode 8overflowEi 9pbackfailEi 9showmanycEv",
    "9underflowEv C1EOS2_ C1Ev C2EOS2_ C2Ev D0Ev D1Ev D2Ev aSEOS2_"]),
  ("_ZNSt13basic_filebufIwSt11char_traitsIwEE", [
    "13_M_set_bufferEl 14_M_get_ext_posER11__mbstate_t 15_M_create_pbackEv 16_M_destroy_pbackEv",
    "19_M_terminate_outputEv 22_M_convert_to_externalEPwl 26_M_destroy_internal_bufferEv",
    "27_M_allocate_internal_bufferEv 4openEPKcSt13_Ios_Openmode",
    "4openERKNSt7__cxx1112basic_stringIcS0_IcESaIcEEESt13_Ios_Openmode",
    "4openERKSsSt13_Ios_Openmode 4swapERS2_ 4syncEv 5closeEv 5imbueERKSt6locale 6setbufEPwl",
    "6xsgetnEPwl 6xsputnEPKwl 7_M_seekElSt12_Ios_Seekdir11__mbstate_t",
    "7seekoffElSt12_Ios_SeekdirSt13_Ios_Openmode",
    "7seekposESt4fposI11__mbstate_tESt13_Ios_Openmode 8overflowEj 9pbackfailEj 9showmanycEv",
    "9underflowEv C1EOS2_ C1Ev C2EOS2_ C2Ev D0Ev D1Ev D2Ev aSEOS2_"]),
  ("_ZNSt13basic_fstreamIcSt11char_traitsIcEE", [
    "4openEPKcSt13_Ios_Openmode 4openERKNSt7__cxx1112basic_stringIcS1_SaIcEEESt13_Ios_Openmode",
    "4openERKSsSt13_Ios_Openmode 4swapERS2_ 5closeEv 7is_openEv C1EOS2_ C1EPKcSt13_Ios_Openmode",
    "C1ERKNSt7__cxx1112basic_stringIcS1_SaIcEEESt13_Ios_Openmode C1ERKSsSt13_Ios_Openmode C1Ev",
    "C2EOS2_ C2EPKcSt13_Ios_Openmode",
    "C2ERKNSt7__cxx1112basic_stringIcS1_SaIcEEESt13_Ios_Openmode C2ERKSsSt13_Ios_Openmode C2Ev",
    "D0Ev D1Ev D2Ev aSEOS2_"]),
  ("_ZNSt13basic_fstreamIwSt11char_traitsIwEE", [
    "4openEPKcSt13_Ios_Openmode",
    "4openERKNSt7__cxx1112basic_stringIcS0_IcESaIcEEESt13_Ios_Openmode",
    "4openERKSsSt13_Ios_Openmode 4swapERS2_ 5closeEv 7is_openEv C1EOS2_ C1EPKcSt13_Ios_Openmode",
    "C1ERKNSt7__cxx1112basic_stringIcS0_IcESaIcEEESt13_Ios_Openmode C1ERKSsSt13_Ios_Openmode",
    "C1Ev C2EOS2_ C2EPKcSt13_Ios_Openmode",
    "C2ERKNSt7__cxx1112basic_stringIcS0_IcESaIcEEESt13_Ios_Openmode C2ERKSsSt13_Ios_Openmode",
    "C2Ev D0Ev D1Ev D2Ev aSEOS2_"]),
  ("_ZNSt13basic_istreamIwSt11char_traitsIwEE", [
    "3getEPwl 3getEPwlw 3getERSt15basic_streambufIwS1_E 3getERSt15basic_streambufIwS1_Ew",
    "3getERw 3getEv 4peekEv 4readEPwl 4swapERS2_ 4syncEv 5seekgESt4fposI11__mbstate_tE",
    "5seekgElSt12_Ios_Seekdir 5tellgEv 5ungetEv 6ignoreEl 6ignoreElj 6ignoreEv 6sentryC1ERS2_b",
    "6sentryC2ERS2_b 7getlineEPwl 7getlineEPwlw 7putbackEw 8readsomeEPwl C1EOS2_",
    "C1EPSt15basic_streambufIwS1_E C1Ev C2EOS2_ C2EPSt15basic_streambufIwS1_E C2Ev D0Ev D1Ev",
    "D2Ev aSEOS2_ rsEPFRS2_S3_E rsEPFRSt8ios_baseS4_E rsEPFRSt9basic_iosIwS1_ES5_E",
    "rsEPSt15basic_streambufIwS1_E rsERPv rsERb rsERd rsERe rsERf rsERi rsERj rsERl rsERm rsERs",
    "rsERt rsERx rsERy"]),
  ("_ZNSt13basic_istreamIwSt11char_traitsIwEE10_M_extractI", [
    "PvEERS2_RT_ bEERS2_RT_ dEERS2_RT_ eEERS2_RT_ fEERS2_RT_ jEERS2_RT_ lEERS2_RT_ mEERS2_RT_",
    "tEERS2_RT_ xEERS2_RT_ yEERS2_RT_"]),
  ("_ZNSt13basic_ostreamIwSt11char_traitsIwEE", [
    "3putEw 4swapERS2_ 5flushEv 5seekpESt4fposI11__mbstate_tE 5seekpElSt12_Ios_Seekdir 5tellpEv",
    "5writeEPKwl 6sentryC1ERS2_ 6sentryC2ERS2_ 6sentryD1Ev 6sentryD2Ev 8_M_writeEPKwl C1EOS2_",
    "C1EPSt15basic_streambufIwS1_E C1ERSt14basic_iostreamIwS1_E C1Ev C2EOS2_",
    "C2EPSt15basic_streambufIwS1_E C2ERSt14basic_iostreamIwS1_E C2Ev D0Ev D1Ev D2Ev aSEOS2_",
    "lsEDn lsEPFRS2_S3_E lsEPFRSt8ios_baseS4_E lsEPFRSt9basic_iosIwS1_ES5_E lsEPKv",
    "lsEPSt15basic_streambufIwS1_E lsEb lsEd lsEe lsEf lsEi lsEj lsEl lsEm lsEs lsEt lsEx lsEy"]),
  ("_ZNSt13basic_ostreamIwSt11char_traitsIwEE9_M_insertI", [
    "PKvEERS2_T_ bEERS2_T_ dEERS2_T_ eEERS2_T_ lEERS2_T_ mEERS2_T_ xEERS2_T_ yEERS2_T_"]),
  ("_ZNSt14basic_ifstreamIcSt11char_traitsIcEE", [
    "4openEPKcSt13_Ios_Openmode 4openERKNSt7__cxx1112basic_stringIcS1_SaIcEEESt13_Ios_Openmode",
    "4openERKSsSt13_Ios_Openmode 4swapERS2_ 5closeEv 7is_openEv C1EOS2_ C1EPKcSt13_Ios_Openmode",
    "C1ERKNSt7__cxx1112basic_stringIcS1_SaIcEEESt13_Ios_Openmode C1ERKSsSt13_Ios_Openmode C1Ev",
    "C2EOS2_ C2EPKcSt13_Ios_Openmode",
    "C2ERKNSt7__cxx1112basic_stringIcS1_SaIcEEESt13_Ios_Openmode C2ERKSsSt13_Ios_Openmode C2Ev",
    "D0Ev D1Ev D2Ev aSEOS2_"]),
  ("_ZNSt14basic_ifstreamIwSt11char_traitsIwEE", [
    "4openEPKcSt13_Ios_Openmode",
    "4openERKNSt7__cxx1112basic_stringIcS0_IcESaIcEEESt13_Ios_Openmode",
    "4openERKSsSt13_Ios_Openmode 4swapERS2_ 5closeEv 7is_openEv C1EOS2_ C1EPKcSt13_Ios_Openmode",
    "C1ERKNSt7__cxx1112basic_stringIcS0_IcESaIcEEESt13_Ios_Openmode C1ERKSsSt13_Ios_Openmode",
    "C1Ev C2EOS2_ C2EPKcSt13_Ios_Openmode",
    "C2ERKNSt7__cxx1112basic_stringIcS0_IcESaIcEEESt13_Ios_Openmode C2ERKSsSt13_Ios_Openmode",
    "C2Ev D0Ev D1Ev D2Ev aSEOS2_"]),
  ("_ZNSt14basic_iostreamIwSt11char_traitsIwEE", [
    "4swapERS2_ C1EOS2_ C1EPSt15basic_streambufIwS1_E C1Ev C2EOS2_",
    "C2EPSt15basic_streambufIwS1_E C2Ev D0Ev D1Ev D2Ev aSEOS2_"]),
  ("_ZNSt14basic_ofstreamIcSt11char_traitsIcEE", [
    "4openEPKcSt13_Ios_Openmode 4openERKNSt7__cxx1112basic_stringIcS1_SaIcEEESt13_Ios_Openmode",
    "4openERKSsSt13_Ios_Openmode 4swapERS2_ 5closeEv 7is_openEv C1EOS2_ C1EPKcSt13_Ios_Openmode",
    "C1ERKNSt7__cxx1112basic_stringIcS1_SaIcEEESt13_Ios_Openmode C1ERKSsSt13_Ios_Openmode C1Ev",
    "C2EOS2_ C2EPKcSt13_Ios_Openmode",
    "C2ERKNSt7__cxx1112basic_stringIcS1_SaIcEEESt13_Ios_Openmode C2ERKSsSt13_Ios_Openmode C2Ev",
    "D0Ev D1Ev D2Ev aSEOS2_"]),
  ("_ZNSt14basic_ofstreamIwSt11char_traitsIwEE", [
    "4openEPKcSt13_Ios_Openmode",
    "4openERKNSt7__cxx1112basic_stringIcS0_IcESaIcEEESt13_Ios_Openmode",
    "4openERKSsSt13_Ios_Openmode 4swapERS2_ 5closeEv 7is_openEv C1EOS2_ C1EPKcSt13_Ios_Openmode",
    "C1ERKNSt7__cxx1112basic_stringIcS0_IcESaIcEEESt13_Ios_Openmode C1ERKSsSt13_Ios_Openmode",
    "C1Ev C2EOS2_ C2EPKcSt13_Ios_Openmode",
    "C2ERKNSt7__cxx1112basic_stringIcS0_IcESaIcEEESt13_Ios_Openmode C2ERKSsSt13_Ios_Openmode",
    "C2Ev D0Ev D1Ev D2Ev aSEOS2_"]),
  ("_ZNSt15basic_streambufIcSt11char_traitsIcEE", [
    "10pubseekoffElSt12_Ios_SeekdirSt13_Ios_Openmode",
    "10pubseekposESt4fposI11__mbstate_tESt13_Ios_Openmode 12__safe_gbumpEl 12__safe_pbumpEl",
    "4setgEPcS3_S3_ 4setpEPcS3_ 4swapERS2_ 4syncEv 5gbumpEi 5imbueERKSt6locale 5pbumpEi",
    "5sgetcEv 5sgetnEPcl 5sputcEc 5sputnEPKcl 5uflowEv 6sbumpcEv 6setbufEPcl 6snextcEv",
    "6stosscEv 6xsgetnEPcl 6xsputnEPKcl 7pubsyncEv 7seekoffElSt12_Ios_SeekdirSt13_Ios_Openmode",
    "7seekposESt4fposI11__mbstate_tESt13_Ios_Openmode 7sungetcEv 8in_availEv 8overflowEi",
    "8pubimbueERKSt6locale 9pbackfailEi 9pubsetbufEPcl 9showmanycEv 9sputbackcEc 9underflowEv",
    "C1ERKS2_ C1Ev C2ERKS2_ C2Ev D0Ev D1Ev D2Ev aSERKS2_"]),
  ("_ZNSt15basic_streambufIwSt11char_traitsIwEE", [
    "10pubseekoffElSt12_Ios_SeekdirSt13_Ios_Openmode",
    "10pubseekposESt4fposI11__mbstate_tESt13_Ios_Openmode 12__safe_gbumpEl 12__safe_pbumpEl",
    "4setgEPwS3_S3_ 4setpEPwS3_ 4swapERS2_ 4syncEv 5gbumpEi 5imbueERKSt6locale 5pbumpEi",
    "5sgetcEv 5sgetnEPwl 5sputcEw 5sputnEPKwl 5uflowEv 6sbumpcEv 6setbufEPwl 6snextcEv",
    "6stosscEv 6xsgetnEPwl 6xsputnEPKwl 7pubsyncEv 7seekoffElSt12_Ios_SeekdirSt13_Ios_Openmode",
    "7seekposESt4fposI11__mbstate_tESt13_Ios_Openmode 7sungetcEv 8in_availEv 8overflowEj",
    "8pubimbueERKSt6locale 9pbackfailEj 9pubsetbufEPwl 9showmanycEv 9sputbackcEw 9underflowEv",
    "C1ERKS2_ C1Ev C2ERKS2_ C2Ev D0Ev D1Ev D2Ev aSERKS2_"]),
  ("_ZNSt15basic_stringbufIcSt11char_traitsIcESaIcEE", [
    "15_M_update_egptrEv 17_M_stringbuf_initESt13_Ios_Openmode 3strERKSs 4swapERS3_ 6setbufEPcl",
    "7_M_syncEPcmm 7seekoffElSt12_Ios_SeekdirSt13_Ios_Openmode",
    "7seekposESt4fposI11__mbstate_tESt13_Ios_Openmode 8_M_pbumpEPcS4_l 8overflowEi 9pbackfailEi",
    "9showmanycEv 9underflowEv C1EOS3_ C1ERKSsSt13_Ios_Openmode C1ESt13_Ios_Openmode C1Ev",
    "C2EOS3_ C2ERKSsSt13_Ios_Openmode C2ESt13_Ios_Openmode C2Ev D0Ev D1Ev aSEOS3_"]),
  ("_ZNSt15basic_stringbufIwSt11char_traitsIwESaIwEE", [
    "15_M_update_egptrEv 17_M_stringbuf_initESt13_Ios_Openmode 3strERKSbIwS1_S2_E 4swapERS3_",
    "6setbufEPwl 7_M_syncEPwmm 7seekoffElSt12_Ios_SeekdirSt13_Ios_Openmode",
    "7seekposESt4fposI11__mbstate_tESt13_Ios_Openmode 8_M_pbumpEPwS4_l 8overflowEj 9pbackfailEj",
    "9showmanycEv 9underflowEv C1EOS3_ C1ERKSbIwS1_S2_ESt13_Ios_Openmode C1ESt13_Ios_Openmode",
    "C1Ev C2EOS3_ C2ERKSbIwS1_S2_ESt13_Ios_Openmode C2ESt13_Ios_Openmode C2Ev D0Ev D1Ev aSEOS3_"]),
  ("_ZNSt18basic_stringstreamIcSt11char_traitsIcESaIcEE", [
    "3strERKSs 4swapERS3_ C1EOS3_ C1ERKSsSt13_Ios_Openmode C1ESt13_Ios_Openmode C1Ev C2EOS3_",
    "C2ERKSsSt13_Ios_Openmode C2ESt13_Ios_Openmode C2Ev D0Ev D1Ev D2Ev aSEOS3_"]),
  ("_ZNSt18basic_stringstreamIwSt11char_traitsIwESaIwEE", [
    "3strERKSbIwS1_S2_E 4swapERS3_ C1EOS3_ C1ERKSbIwS1_S2_ESt13_Ios_Openmode",
    "C1ESt13_Ios_Openmode C1Ev C2EOS3_ C2ERKSbIwS1_S2_ESt13_Ios_Openmode C2ESt13_Ios_Openmode",
    "C2Ev D0Ev D1Ev D2Ev aSEOS3_"]),
  ("_ZNSt8ios_base", [
    "10floatfieldE 10scientificE 11adjustfieldE 13_M_grow_wordsEib 15sync_with_stdioEb",
    "17_M_call_callbacksENS_5eventE 17register_callbackEPFvNS_5eventERS_iEi",
    "20_M_dispose_callbacksEv 2inE 3appE 3ateE 3begE 3curE 3decE 3endE 3hexE 3octE 3outE",
    "4InitC1Ev 4InitC2Ev 4InitD1Ev 4InitD2Ev 4leftE 5fixedE 5imbueERKSt6locale 5rightE 5truncE",
    "6badbitE 6binaryE 6eofbitE 6skipwsE 6xallocEv 7_M_initEv 7_M_moveERS_ 7_M_swapERS_",
    "7failbitE 7failureB5cxx11C1EPKcRKSt10error_code",
    "7failureB5cxx11C1ERKNSt7__cxx1112basic_stringIcSt11char_traitsIcESaIcEEE",
    "7failureB5cxx11C1ERKNSt7__cxx1112basic_stringIcSt11char_traitsIcESaIcEEERKSt10error_code",
    "7failureB5cxx11C2EPKcRKSt10error_code",
    "7failureB5cxx11C2ERKNSt7__cxx1112basic_stringIcSt11char_traitsIcESaIcEEE",
    "7failureB5cxx11C2ERKNSt7__cxx1112basic_stringIcSt11char_traitsIcESaIcEEERKSt10error_code",
    "7failureB5cxx11D0Ev 7failureB5cxx11D1Ev 7failureB5cxx11D2Ev 7failureC1ERKSs",
    "7failureC2ERKSs 7failureD0Ev 7failureD1Ev 7failureD2Ev 7goodbitE 7showposE 7unitbufE",
    "8internalE 8showbaseE 9basefieldE 9boolalphaE 9showpointE 9uppercaseE C1Ev C2Ev D0Ev D1Ev",
    "D2Ev"]),
  ("_ZNSt9basic_iosIcSt11char_traitsIcEE", [
    "10exceptionsESt12_Ios_Iostate 11_M_setstateESt12_Ios_Iostate 15_M_cache_localeERKSt6locale",
    "3tieEPSo 4fillEc 4initEPSt15basic_streambufIcS1_E 4moveEOS2_ 4moveERS2_ 4swapERS2_",
    "5clearESt12_Ios_Iostate 5imbueERKSt6locale 5rdbufEPSt15basic_streambufIcS1_E",
    "7copyfmtERKS2_ 8setstateESt12_Ios_Iostate 9set_rdbufEPSt15basic_streambufIcS1_E",
    "C1EPSt15basic_streambufIcS1_E C1Ev C2EPSt15basic_streambufIcS1_E C2Ev D0Ev D1Ev D2Ev"]),
  ("_ZNSt9basic_iosIwSt11char_traitsIwEE", [
    "10exceptionsESt12_Ios_Iostate 11_M_setstateESt12_Ios_Iostate 15_M_cache_localeERKSt6locale",
    "3tieEPSt13basic_ostreamIwS1_E 4fillEw 4initEPSt15basic_streambufIwS1_E 4moveEOS2_",
    "4moveERS2_ 4swapERS2_ 5clearESt12_Ios_Iostate 5imbueERKSt6locale",
    "5rdbufEPSt15basic_streambufIwS1_E 7copyfmtERKS2_ 8setstateESt12_Ios_Iostate",
    "9set_rdbufEPSt15basic_streambufIwS1_E C1EPSt15basic_streambufIwS1_E C1Ev",
    "C2EPSt15basic_streambufIwS1_E C2Ev D0Ev D1Ev D2Ev"]),
  ("_ZNSt9strstream", [
    "3strEv 6freezeEb C1EPciSt13_Ios_Openmode C1Ev C2EPciSt13_Ios_Openmode C2Ev D0Ev D1Ev D2Ev"])]

end GuestBridge.Posix.SystemLibrary
