import GuestBridge.Posix.SystemLibrary.NameFamily

/-!
Mangled symbols of the standard library of C++ for strings, and for what was built anew along with
them.
-/
namespace GuestBridge.Posix.SystemLibrary

/-- Strings of both layouts, and classes that come in a form for the later layout. -/
def stringSymbols : List String := families [
  ("_ZNKSbIwSt11char_traitsIwESaIwEE", [
    "11_M_disjunctEPKw 12find_last_ofEPKwm 12find_last_ofEPKwmm 12find_last_ofERKS2_m",
    "12find_last_ofEwm 13find_first_ofEPKwm 13find_first_ofEPKwmm 13find_first_ofERKS2_m",
    "13find_first_ofEwm 13get_allocatorEv 15_M_check_lengthEmmPKc 16find_last_not_ofEPKwm",
    "16find_last_not_ofEPKwmm 16find_last_not_ofERKS2_m 16find_last_not_ofEwm",
    "17find_first_not_ofEPKwm 17find_first_not_ofEPKwmm 17find_first_not_ofERKS2_m",
    "17find_first_not_ofEwm 2atEm 3endEv 4_Rep12_M_is_leakedEv 4_Rep12_M_is_sharedEv 4backEv",
    "4cendEv 4copyEPwmm 4dataEv 4findEPKwm 4findEPKwmm 4findERKS2_m 4findEwm 4rendEv 4sizeEv",
    "5beginEv 5c_strEv 5crendEv 5emptyEv 5frontEv 5rfindEPKwm 5rfindEPKwmm 5rfindERKS2_m",
    "5rfindEwm 6_M_repEv 6cbeginEv 6lengthEv 6rbeginEv 6substrEmm 7_M_dataEv 7_M_iendEv",
    "7compareEPKw 7compareERKS2_ 7compareEmmPKw 7compareEmmPKwm 7compareEmmRKS2_",
    "7compareEmmRKS2_mm 7crbeginEv 8_M_checkEmPKc 8_M_limitEmm 8capacityEv 8max_sizeEv",
    "9_M_ibeginEv cvSt17basic_string_viewIwS0_EEv ixEm"]),
  ("_ZNKSs", [
    "2atEm 3endEv 4_Rep12_M_is_leakedEv 4_Rep12_M_is_sharedEv 4backEv 4cendEv 4copyEPcmm",
    "4dataEv 4findEPKcm 4findEPKcmm 4findERKSsm 4findEcm 4rendEv 4sizeEv 5beginEv 5c_strEv",
    "5crendEv 5emptyEv 5frontEv 5rfindEPKcm 5rfindEPKcmm 5rfindERKSsm 5rfindEcm 6_M_repEv",
    "6cbeginEv 6lengthEv 6rbeginEv 6substrEmm 7_M_dataEv 7_M_iendEv 7compareEPKc 7compareERKSs",
    "7compareEmmPKc 7compareEmmPKcm 7compareEmmRKSs 7compareEmmRKSsmm 7crbeginEv 8_M_checkEmPKc",
    "8_M_limitEmm 8capacityEv 8max_sizeEv 9_M_ibeginEv",
    "cvSt17basic_string_viewIcSt11char_traitsIcEEEv ixEm"]),
  ("_ZNKSs1", [
    "1_M_disjunctEPKc 3find_first_ofEPKcm 3find_first_ofEPKcmm 3find_first_ofERKSsm",
    "3find_first_ofEcm 3get_allocatorEv 5_M_check_lengthEmmPKc"]),
  ("_ZNKSs12find_last_ofE", ["PKcm PKcmm RKSsm cm"]),
  ("_ZNKSs16find_last_not_ofE", ["PKcm PKcmm RKSsm cm"]),
  ("_ZNKSs17find_first_not_ofE", ["PKcm PKcmm RKSsm cm"]),
  ("_ZNKSt7__cxx1110moneypunctIcLb", [
    "0EE10neg_formatEv 0EE10pos_formatEv 0EE11curr_symbolEv 0EE11do_groupingEv",
    "0EE11frac_digitsEv 0EE13decimal_pointEv 0EE13do_neg_formatEv 0EE13do_pos_formatEv",
    "0EE13negative_signEv 0EE13positive_signEv 0EE13thousands_sepEv 0EE14do_curr_symbolEv",
    "0EE14do_frac_digitsEv 0EE16do_decimal_pointEv 0EE16do_negative_signEv",
    "0EE16do_positive_signEv 0EE16do_thousands_sepEv 0EE8groupingEv 1EE10neg_formatEv",
    "1EE10pos_formatEv 1EE11curr_symbolEv 1EE11do_groupingEv 1EE11frac_digitsEv",
    "1EE13decimal_pointEv 1EE13do_neg_formatEv 1EE13do_pos_formatEv 1EE13negative_signEv",
    "1EE13positive_signEv 1EE13thousands_sepEv 1EE14do_curr_symbolEv 1EE14do_frac_digitsEv",
    "1EE16do_decimal_pointEv 1EE16do_negative_signEv 1EE16do_positive_signEv",
    "1EE16do_thousands_sepEv 1EE8groupingEv"]),
  ("_ZNKSt7__cxx1110moneypunctIwLb", [
    "0EE10neg_formatEv 0EE10pos_formatEv 0EE11curr_symbolEv 0EE11do_groupingEv",
    "0EE11frac_digitsEv 0EE13decimal_pointEv 0EE13do_neg_formatEv 0EE13do_pos_formatEv",
    "0EE13negative_signEv 0EE13positive_signEv 0EE13thousands_sepEv 0EE14do_curr_symbolEv",
    "0EE14do_frac_digitsEv 0EE16do_decimal_pointEv 0EE16do_negative_signEv",
    "0EE16do_positive_signEv 0EE16do_thousands_sepEv 0EE8groupingEv 1EE10neg_formatEv",
    "1EE10pos_formatEv 1EE11curr_symbolEv 1EE11do_groupingEv 1EE11frac_digitsEv",
    "1EE13decimal_pointEv 1EE13do_neg_formatEv 1EE13do_pos_formatEv 1EE13negative_signEv",
    "1EE13positive_signEv 1EE13thousands_sepEv 1EE14do_curr_symbolEv 1EE14do_frac_digitsEv",
    "1EE16do_decimal_pointEv 1EE16do_negative_signEv 1EE16do_positive_signEv",
    "1EE16do_thousands_sepEv 1EE8groupingEv"]),
  ("_ZNKSt7__cxx1112basic_stringIcSt11char_traitsIcESaIcEE", [
    "11_M_disjunctEPKc 11_M_is_localEv 12find_last_ofEPKcm 12find_last_ofEPKcmm",
    "12find_last_ofERKS4_m 12find_last_ofEcm 13_M_local_dataEv 13find_first_ofEPKcm",
    "13find_first_ofEPKcmm 13find_first_ofERKS4_m 13find_first_ofEcm 13get_allocatorEv",
    "15_M_check_lengthEmmPKc 16_M_get_allocatorEv 16find_last_not_ofEPKcm",
    "16find_last_not_ofEPKcmm 16find_last_not_ofERKS4_m 16find_last_not_ofEcm",
    "17find_first_not_ofEPKcm 17find_first_not_ofEPKcmm 17find_first_not_ofERKS4_m",
    "17find_first_not_ofEcm 2atEm 3endEv 4backEv 4cendEv 4copyEPcmm 4dataEv 4findEPKcm",
    "4findEPKcmm 4findERKS4_m 4findEcm 4rendEv 4sizeEv 5beginEv 5c_strEv 5crendEv 5emptyEv",
    "5frontEv 5rfindEPKcm 5rfindEPKcmm 5rfindERKS4_m 5rfindEcm 6cbeginEv 6lengthEv 6rbeginEv",
    "6substrEmm 7_M_dataEv 7compareEPKc 7compareERKS4_ 7compareEmmPKc 7compareEmmPKcm",
    "7compareEmmRKS4_ 7compareEmmRKS4_mm 7crbeginEv 8_M_checkEmPKc 8_M_limitEmm 8capacityEv",
    "8max_sizeEv cvSt17basic_string_viewIcS2_EEv ixEm"]),
  ("_ZNKSt7__cxx1112basic_stringIwSt11char_traitsIwESaIwEE", [
    "11_M_disjunctEPKw 11_M_is_localEv 12find_last_ofEPKwm 12find_last_ofEPKwmm",
    "12find_last_ofERKS4_m 12find_last_ofEwm 13_M_local_dataEv 13find_first_ofEPKwm",
    "13find_first_ofEPKwmm 13find_first_ofERKS4_m 13find_first_ofEwm 13get_allocatorEv",
    "15_M_check_lengthEmmPKc 16_M_get_allocatorEv 16find_last_not_ofEPKwm",
    "16find_last_not_ofEPKwmm 16find_last_not_ofERKS4_m 16find_last_not_ofEwm",
    "17find_first_not_ofEPKwm 17find_first_not_ofEPKwmm 17find_first_not_ofERKS4_m",
    "17find_first_not_ofEwm 2atEm 3endEv 4backEv 4cendEv 4copyEPwmm 4dataEv 4findEPKwm",
    "4findEPKwmm 4findERKS4_m 4findEwm 4rendEv 4sizeEv 5beginEv 5c_strEv 5crendEv 5emptyEv",
    "5frontEv 5rfindEPKwm 5rfindEPKwmm 5rfindERKS4_m 5rfindEwm 6cbeginEv 6lengthEv 6rbeginEv",
    "6substrEmm 7_M_dataEv 7compareEPKw 7compareERKS4_ 7compareEmmPKw 7compareEmmPKwm",
    "7compareEmmRKS4_ 7compareEmmRKS4_mm 7crbeginEv 8_M_checkEmPKc 8_M_limitEmm 8capacityEv",
    "8max_sizeEv cvSt17basic_string_viewIwS2_EEv ixEm"]),
  ("_ZNKSt7__cxx1115basic_stringbufI", [
    "cSt11char_traitsIcESaIcEE13get_allocatorEv cSt11char_traitsIcESaIcEE3strEv",
    "cSt11char_traitsIcESaIcEE4viewEv wSt11char_traitsIwESaIwEE13get_allocatorEv",
    "wSt11char_traitsIwESaIwEE3strEv wSt11char_traitsIwESaIwEE4viewEv"]),
  ("_ZNKSt7__cxx1118basic_stringstreamI", [
    "cSt11char_traitsIcESaIcEE3strEv cSt11char_traitsIcESaIcEE4viewEv",
    "cSt11char_traitsIcESaIcEE5rdbufEv wSt11char_traitsIwESaIwEE3strEv",
    "wSt11char_traitsIwESaIwEE4viewEv wSt11char_traitsIwESaIwEE5rdbufEv"]),
  ("_ZNKSt7__cxx1119basic_istringstreamI", [
    "cSt11char_traitsIcESaIcEE3strEv cSt11char_traitsIcESaIcEE4viewEv",
    "cSt11char_traitsIcESaIcEE5rdbufEv wSt11char_traitsIwESaIwEE3strEv",
    "wSt11char_traitsIwESaIwEE4viewEv wSt11char_traitsIwESaIwEE5rdbufEv"]),
  ("_ZNKSt7__cxx1119basic_ostringstreamI", [
    "cSt11char_traitsIcESaIcEE3strEv cSt11char_traitsIcESaIcEE4viewEv",
    "cSt11char_traitsIcESaIcEE5rdbufEv wSt11char_traitsIwESaIwEE3strEv",
    "wSt11char_traitsIwESaIwEE4viewEv wSt11char_traitsIwESaIwEE5rdbufEv"]),
  ("_ZNKSt7__cxx117collateI", [
    "cE10_M_compareEPKcS3_ cE10do_compareEPKcS3_S3_S3_ cE12_M_transformEPcPKcm",
    "cE12do_transformEPKcS3_ cE4hashEPKcS3_ cE7compareEPKcS3_S3_S3_ cE7do_hashEPKcS3_",
    "cE9transformEPKcS3_ wE10_M_compareEPKwS3_ wE10do_compareEPKwS3_S3_S3_",
    "wE12_M_transformEPwPKwm wE12do_transformEPKwS3_ wE4hashEPKwS3_ wE7compareEPKwS3_S3_S3_",
    "wE7do_hashEPKwS3_ wE9transformEPKwS3_"]),
  ("_ZNKSt7__cxx118messagesI", [
    "cE18_M_convert_to_charERKNS_12basic_stringIcSt11char_traitsIcESaIcEEE",
    "cE20_M_convert_from_charEPc cE3getEiiiRKNS_12basic_stringIcSt11char_traitsIcESaIcEEE",
    "cE4openERKNS_12basic_stringIcSt11char_traitsIcESaIcEEERKSt6locale",
    "cE4openERKNS_12basic_stringIcSt11char_traitsIcESaIcEEERKSt6localePKc cE5closeEi",
    "cE6do_getEiiiRKNS_12basic_stringIcSt11char_traitsIcESaIcEEE",
    "cE7do_openERKNS_12basic_stringIcSt11char_traitsIcESaIcEEERKSt6locale cE8do_closeEi",
    "wE18_M_convert_to_charERKNS_12basic_stringIwSt11char_traitsIwESaIwEEE",
    "wE20_M_convert_from_charEPc wE3getEiiiRKNS_12basic_stringIwSt11char_traitsIwESaIwEEE",
    "wE4openERKNS_12basic_stringIcSt11char_traitsIcESaIcEEERKSt6locale",
    "wE4openERKNS_12basic_stringIcSt11char_traitsIcESaIcEEERKSt6localePKc wE5closeEi",
    "wE6do_getEiiiRKNS_12basic_stringIwSt11char_traitsIwESaIwEEE",
    "wE7do_openERKNS_12basic_stringIcSt11char_traitsIcESaIcEEERKSt6locale wE8do_closeEi"]),
  ("_ZNKSt7__cxx118numpunctI", [
    "cE11do_groupingEv cE11do_truenameEv cE12do_falsenameEv cE13decimal_pointEv",
    "cE13thousands_sepEv cE16do_decimal_pointEv cE16do_thousands_sepEv cE8groupingEv",
    "cE8truenameEv cE9falsenameEv wE11do_groupingEv wE11do_truenameEv wE12do_falsenameEv",
    "wE13decimal_pointEv wE13thousands_sepEv wE16do_decimal_pointEv wE16do_thousands_sepEv",
    "wE8groupingEv wE8truenameEv wE9falsenameEv"]),
  ("_ZNKSt7__cxx118time_getIcSt19istreambuf_iteratorIcSt11char_traitsIcEEE", [
    "10date_orderEv 11do_get_dateES4_S4_RSt8ios_baseRSt12_Ios_IostateP2tm",
    "11do_get_timeES4_S4_RSt8ios_baseRSt12_Ios_IostateP2tm",
    "11do_get_yearES4_S4_RSt8ios_baseRSt12_Ios_IostateP2tm",
    "11get_weekdayES4_S4_RSt8ios_baseRSt12_Ios_IostateP2tm 13do_date_orderEv",
    "13get_monthnameES4_S4_RSt8ios_baseRSt12_Ios_IostateP2tm",
    "14_M_extract_numES4_S4_RiiimRSt8ios_baseRSt12_Ios_Iostate",
    "14do_get_weekdayES4_S4_RSt8ios_baseRSt12_Ios_IostateP2tm",
    "15_M_extract_nameES4_S4_RiPPKcmRSt8ios_baseRSt12_Ios_Iostate",
    "16do_get_monthnameES4_S4_RSt8ios_baseRSt12_Ios_IostateP2tm",
    "21_M_extract_via_formatES4_S4_RSt8ios_baseRSt12_Ios_IostateP2tmPKc",
    "21_M_extract_via_formatES4_S4_RSt8ios_baseRSt12_Ios_IostateP2tmPKcRSt16__time_get_state",
    "24_M_extract_wday_or_monthES4_S4_RiPPKcmRSt8ios_baseRSt12_Ios_Iostate",
    "3getES4_S4_RSt8ios_baseRSt12_Ios_IostateP2tmPKcSD_",
    "3getES4_S4_RSt8ios_baseRSt12_Ios_IostateP2tmcc",
    "6do_getES4_S4_RSt8ios_baseRSt12_Ios_IostateP2tmcc",
    "8get_dateES4_S4_RSt8ios_baseRSt12_Ios_IostateP2tm",
    "8get_timeES4_S4_RSt8ios_baseRSt12_Ios_IostateP2tm",
    "8get_yearES4_S4_RSt8ios_baseRSt12_Ios_IostateP2tm"]),
  ("_ZNKSt7__cxx118time_getIwSt19istreambuf_iteratorIwSt11char_traitsIwEEE", [
    "10date_orderEv 11do_get_dateES4_S4_RSt8ios_baseRSt12_Ios_IostateP2tm",
    "11do_get_timeES4_S4_RSt8ios_baseRSt12_Ios_IostateP2tm",
    "11do_get_yearES4_S4_RSt8ios_baseRSt12_Ios_IostateP2tm",
    "11get_weekdayES4_S4_RSt8ios_baseRSt12_Ios_IostateP2tm 13do_date_orderEv",
    "13get_monthnameES4_S4_RSt8ios_baseRSt12_Ios_IostateP2tm",
    "14_M_extract_numES4_S4_RiiimRSt8ios_baseRSt12_Ios_Iostate",
    "14do_get_weekdayES4_S4_RSt8ios_baseRSt12_Ios_IostateP2tm",
    "15_M_extract_nameES4_S4_RiPPKwmRSt8ios_baseRSt12_Ios_Iostate",
    "16do_get_monthnameES4_S4_RSt8ios_baseRSt12_Ios_IostateP2tm",
    "21_M_extract_via_formatES4_S4_RSt8ios_baseRSt12_Ios_IostateP2tmPKw",
    "21_M_extract_via_formatES4_S4_RSt8ios_baseRSt12_Ios_IostateP2tmPKwRSt16__time_get_state",
    "24_M_extract_wday_or_monthES4_S4_RiPPKwmRSt8ios_baseRSt12_Ios_Iostate",
    "3getES4_S4_RSt8ios_baseRSt12_Ios_IostateP2tmPKwSD_",
    "3getES4_S4_RSt8ios_baseRSt12_Ios_IostateP2tmcc",
    "6do_getES4_S4_RSt8ios_baseRSt12_Ios_IostateP2tmcc",
    "8get_dateES4_S4_RSt8ios_baseRSt12_Ios_IostateP2tm",
    "8get_timeES4_S4_RSt8ios_baseRSt12_Ios_IostateP2tm",
    "8get_yearES4_S4_RSt8ios_baseRSt12_Ios_IostateP2tm"]),
  ("_ZNKSt7__cxx119money_getIcSt19istreambuf_iteratorIcSt11char_traitsIcEEE", [
    "10_M_extractILb0EEES4_S4_S4_RSt8ios_baseRSt12_Ios_IostateRNS_12basic_stringIcS3_SaIcEEE",
    "10_M_extractILb1EEES4_S4_S4_RSt8ios_baseRSt12_Ios_IostateRNS_12basic_stringIcS3_SaIcEEE",
    "3getES4_S4_bRSt8ios_baseRSt12_Ios_IostateRNS_12basic_stringIcS3_SaIcEEE",
    "3getES4_S4_bRSt8ios_baseRSt12_Ios_IostateRe",
    "6do_getES4_S4_bRSt8ios_baseRSt12_Ios_IostateRNS_12basic_stringIcS3_SaIcEEE",
    "6do_getES4_S4_bRSt8ios_baseRSt12_Ios_IostateRe"]),
  ("_ZNKSt7__cxx119money_getIwSt19istreambuf_iteratorIwSt11char_traitsIwEEE", [
    "10_M_extractILb0EEES4_S4_S4_RSt8ios_baseRSt12_Ios_IostateRNS_12basic_stringIcS2_IcESaIcEEE",
    "10_M_extractILb1EEES4_S4_S4_RSt8ios_baseRSt12_Ios_IostateRNS_12basic_stringIcS2_IcESaIcEEE",
    "3getES4_S4_bRSt8ios_baseRSt12_Ios_IostateRNS_12basic_stringIwS3_SaIwEEE",
    "3getES4_S4_bRSt8ios_baseRSt12_Ios_IostateRe",
    "6do_getES4_S4_bRSt8ios_baseRSt12_Ios_IostateRNS_12basic_stringIwS3_SaIwEEE",
    "6do_getES4_S4_bRSt8ios_baseRSt12_Ios_IostateRe"]),
  ("_ZNKSt7__cxx119money_putIcSt19ostreambuf_iteratorIcSt11char_traitsIcEEE", [
    "3putES4_bRSt8ios_basecRKNS_12basic_stringIcS3_SaIcEEE 3putES4_bRSt8ios_basece",
    "6do_putES4_bRSt8ios_basecRKNS_12basic_stringIcS3_SaIcEEE 6do_putES4_bRSt8ios_basece",
    "9_M_insertILb0EEES4_S4_RSt8ios_basecRKNS_12basic_stringIcS3_SaIcEEE",
    "9_M_insertILb1EEES4_S4_RSt8ios_basecRKNS_12basic_stringIcS3_SaIcEEE"]),
  ("_ZNKSt7__cxx119money_putIwSt19ostreambuf_iteratorIwSt11char_traitsIwEEE", [
    "3putES4_bRSt8ios_basewRKNS_12basic_stringIwS3_SaIwEEE 3putES4_bRSt8ios_basewe",
    "6do_putES4_bRSt8ios_basewRKNS_12basic_stringIwS3_SaIwEEE 6do_putES4_bRSt8ios_basewe",
    "9_M_insertILb0EEES4_S4_RSt8ios_basewRKNS_12basic_stringIwS3_SaIwEEE",
    "9_M_insertILb1EEES4_S4_RSt8ios_basewRKNS_12basic_stringIwS3_SaIwEEE"]),
  ("_ZNSbIwSt11char_traitsIwESaIwEE", [
    "10_S_compareEmm 12_Alloc_hiderC1EPwRKS1_ 12_Alloc_hiderC2EPwRKS1_ 12_M_leak_hardEv",
    "12_S_constructEmwRKS1_ 12_S_constructIPKwEEPwT_S7_RKS1_St20forward_iterator_tag",
    "12_S_constructIPwEES4_T_S5_RKS1_St20forward_iterator_tag 12_S_empty_repEv",
    "12__sv_wrapperC1ESt17basic_string_viewIwS0_E 12__sv_wrapperC2ESt17basic_string_viewIwS0_E",
    "13_S_copy_charsEPwN9__gnu_cxx17__normal_iteratorIPKwS2_EES8_",
    "13_S_copy_charsEPwN9__gnu_cxx17__normal_iteratorIS3_S2_EES6_ 13_S_copy_charsEPwPKwS5_",
    "13_S_copy_charsEPwS3_S3_ 13shrink_to_fitEv 14_M_replace_auxEmmmw 15_M_replace_safeEmmPKwm",
    "17_S_to_string_viewESt17basic_string_viewIwS0_E 18_S_construct_aux_2EmwRKS1_ 2atEm 3endEv",
    "4_Rep10_M_destroyERKS1_ 4_Rep10_M_disposeERKS1_ 4_Rep10_M_refcopyEv 4_Rep10_M_refdataEv",
    "4_Rep11_S_max_sizeE 4_Rep11_S_terminalE 4_Rep12_S_empty_repEv 4_Rep13_M_set_leakedEv",
    "4_Rep15_M_set_sharableEv 4_Rep20_S_empty_rep_storageE 4_Rep26_M_set_length_and_sharableEm",
    "4_Rep7_M_grabERKS1_S5_ 4_Rep8_M_cloneERKS1_m 4_Rep9_S_createEmmRKS1_ 4backEv 4dataEv",
    "4nposE 4rendEv 4swapERS2_ 5beginEv 5clearEv 5eraseEN9__gnu_cxx17__normal_iteratorIPwS2_EE",
    "5eraseEN9__gnu_cxx17__normal_iteratorIPwS2_EES6_ 5eraseEmm 5frontEv 6appendEPKw",
    "6appendEPKwm 6appendERKS2_ 6appendERKS2_mm 6appendESt16initializer_listIwE 6appendEmw",
    "6assignEOS2_ 6assignEPKw 6assignEPKwm 6assignERKS2_ 6assignERKS2_mm",
    "6assignESt16initializer_listIwE 6assignEmw",
    "6insertEN9__gnu_cxx17__normal_iteratorIPwS2_EESt16initializer_listIwE",
    "6insertEN9__gnu_cxx17__normal_iteratorIPwS2_EEmw",
    "6insertEN9__gnu_cxx17__normal_iteratorIPwS2_EEw 6insertEmPKw 6insertEmPKwm 6insertEmRKS2_",
    "6insertEmRKS2_mm 6insertEmmw 6rbeginEv 6resizeEm 6resizeEmw 8pop_backEv 9_M_assignEPwmw",
    "9_M_mutateEmmm 9push_backEw C1ENS2_12__sv_wrapperERKS1_ C1EOS2_ C1EOS2_RKS1_ C1EPKwRKS1_",
    "C1EPKwmRKS1_ C1ERKS1_ C1ERKS2_ C1ERKS2_RKS1_ C1ERKS2_mRKS1_ C1ERKS2_mm C1ERKS2_mmRKS1_",
    "C1ESt16initializer_listIwERKS1_ C1EmwRKS1_ C1Ev",
    "C1IN9__gnu_cxx17__normal_iteratorIPwS2_EEEET_S8_RKS1_ C1IPKwEET_S6_RKS1_ C1IPwEET_S5_RKS1_",
    "C2ENS2_12__sv_wrapperERKS1_ C2EOS2_ C2EOS2_RKS1_ C2EPKwRKS1_ C2EPKwmRKS1_ C2ERKS1_",
    "C2ERKS2_ C2ERKS2_RKS1_ C2ERKS2_mRKS1_ C2ERKS2_mm C2ERKS2_mmRKS1_",
    "C2ESt16initializer_listIwERKS1_ C2EmwRKS1_ C2Ev",
    "C2IN9__gnu_cxx17__normal_iteratorIPwS2_EEEET_S8_RKS1_ C2IPKwEET_S6_RKS1_ C2IPwEET_S5_RKS1_",
    "D1Ev D2Ev aSEOS2_ aSEPKw aSERKS2_ aSESt16initializer_listIwE aSEw ixEm pLEPKw pLERKS2_",
    "pLESt16initializer_listIwE pLEw"]),
  ("_ZNSbIwSt11char_traitsIwESaIwEE12", [
    "_S_constructIN9__gnu_cxx17__normal_iteratorIPwS2_EEEES6_T_S8_RKS1_St20forward_iterator_tag"]),
  ("_ZNSbIwSt11char_traitsIwESaIwEE7", ["_M_copyEPwPKwm _M_dataEPw _M_leakEv _M_moveEPwPKwm"]),
  ("_ZNSbIwSt11char_traitsIwESaIwEE7re", ["serveEm serveEv"]),
  ("_ZNSbIwSt11char_traitsIwESaIwEE7replaceE", ["mmPKw mmPKwm mmRKS2_ mmRKS2_mm mmmw"]),
  ("_ZNSbIwSt11char_traitsIwESaIwEE7replaceEN9__gnu_cxx17__normal_iteratorIPwS2_EES6_", [
    "NS4_IPKwS2_EES9_ PKw PKwS8_ PKwm RKS2_ S5_S5_ S6_S6_ St16initializer_listIwE mw"]),
  ("_ZNSs", [
    "10_S_compareEmm 12_Alloc_hiderC1EPcRKSaIcE 12_Alloc_hiderC2EPcRKSaIcE 12_M_leak_hardEv",
    "12_S_constructEmcRKSaIcE 12_S_constructIPKcEEPcT_S3_RKSaIcESt20forward_iterator_tag",
    "12_S_constructIPcEES0_T_S1_RKSaIcESt20forward_iterator_tag 12_S_empty_repEv",
    "12__sv_wrapperC1ESt17basic_string_viewIcSt11char_traitsIcEE",
    "12__sv_wrapperC2ESt17basic_string_viewIcSt11char_traitsIcEE",
    "13_S_copy_charsEPcN9__gnu_cxx17__normal_iteratorIPKcSsEES4_",
    "13_S_copy_charsEPcN9__gnu_cxx17__normal_iteratorIS_SsEES2_ 13_S_copy_charsEPcPKcS1_",
    "13_S_copy_charsEPcS_S_ 13shrink_to_fitEv 14_M_replace_auxEmmmc 15_M_replace_safeEmmPKcm",
    "17_S_to_string_viewESt17basic_string_viewIcSt11char_traitsIcEE",
    "18_S_construct_aux_2EmcRKSaIcE 2atEm 3endEv 4_Rep10_M_destroyERKSaIcE",
    "4_Rep10_M_disposeERKSaIcE 4_Rep10_M_refcopyEv 4_Rep10_M_refdataEv 4_Rep11_S_max_sizeE",
    "4_Rep11_S_terminalE 4_Rep12_S_empty_repEv 4_Rep13_M_set_leakedEv 4_Rep15_M_set_sharableEv",
    "4_Rep20_S_empty_rep_storageE 4_Rep26_M_set_length_and_sharableEm 4_Rep7_M_grabERKSaIcES2_",
    "4_Rep8_M_cloneERKSaIcEm 4_Rep9_S_createEmmRKSaIcE 4backEv 4dataEv 4nposE 4rendEv 4swapERSs",
    "5beginEv 5clearEv 5eraseEN9__gnu_cxx17__normal_iteratorIPcSsEE",
    "5eraseEN9__gnu_cxx17__normal_iteratorIPcSsEES2_ 5eraseEmm 5frontEv 8pop_backEv",
    "9_M_assignEPcmc 9_M_mutateEmmm 9push_backEc C1ENSs12__sv_wrapperERKSaIcE C1EOSs",
    "C1EOSsRKSaIcE C1EPKcRKSaIcE C1EPKcmRKSaIcE C1ERKSaIcE C1ERKSs C1ERKSsRKSaIcE",
    "C1ERKSsmRKSaIcE C1ERKSsmm C1ERKSsmmRKSaIcE C1ESt16initializer_listIcERKSaIcE C1EmcRKSaIcE",
    "C1Ev C1IN9__gnu_cxx17__normal_iteratorIPcSsEEEET_S4_RKSaIcE C1IPKcEET_S2_RKSaIcE",
    "C1IPcEET_S1_RKSaIcE C2ENSs12__sv_wrapperERKSaIcE C2EOSs C2EOSsRKSaIcE C2EPKcRKSaIcE",
    "C2EPKcmRKSaIcE C2ERKSaIcE C2ERKSs C2ERKSsRKSaIcE C2ERKSsmRKSaIcE C2ERKSsmm",
    "C2ERKSsmmRKSaIcE C2ESt16initializer_listIcERKSaIcE C2EmcRKSaIcE C2Ev",
    "C2IN9__gnu_cxx17__normal_iteratorIPcSsEEEET_S4_RKSaIcE C2IPKcEET_S2_RKSaIcE",
    "C2IPcEET_S1_RKSaIcE D1Ev D2Ev aSEOSs aSEPKc aSERKSs aSESt16initializer_listIcE aSEc ixEm",
    "pLEPKc pLERKSs pLESt16initializer_listIcE pLEc"]),
  ("_ZNSs12_", [
    "S_constructIN9__gnu_cxx17__normal_iteratorIPcSsEEEES2_T_S4_RKSaIcESt20forward_iterator_tag"]),
  ("_ZNSs6", [
    "appendEPKc appendEPKcm appendERKSs appendERKSsmm appendESt16initializer_listIcE appendEmc",
    "assignEOSs assignEPKc assignEPKcm assignERKSs assignERKSsmm assignESt16initializer_listIcE",
    "assignEmc rbeginEv resizeEm resizeEmc"]),
  ("_ZNSs6insertE", ["mPKc mPKcm mRKSs mRKSsmm mmc"]),
  ("_ZNSs6insertEN9__gnu_cxx17__normal_iteratorIPcSsEE", ["St16initializer_listIcE c mc"]),
  ("_ZNSs7", ["_M_copyEPcPKcm _M_dataEPc _M_leakEv _M_moveEPcPKcm"]),
  ("_ZNSs7re", ["serveEm serveEv"]),
  ("_ZNSs7replaceE", ["mmPKc mmPKcm mmRKSs mmRKSsmm mmmc"]),
  ("_ZNSs7replaceEN9__gnu_cxx17__normal_iteratorIPcSsEES2_", [
    "NS0_IPKcSsEES5_ PKc PKcS4_ PKcm RKSs S1_S1_ S2_S2_ St16initializer_listIcE mc"]),
  ("_ZNSt7__cxx1110moneypunctIcLb", [
    "0EE24_M_initialize_moneypunctEP15__locale_structPKc 0EE2idE 0EE4intlE",
    "0EEC1EP15__locale_structPKcm 0EEC1EPSt18__moneypunct_cacheIcLb0EEm 0EEC1Em",
    "0EEC2EP15__locale_structPKcm 0EEC2EPSt18__moneypunct_cacheIcLb0EEm 0EEC2Em 0EED0Ev 0EED1Ev",
    "0EED2Ev 1EE24_M_initialize_moneypunctEP15__locale_structPKc 1EE2idE 1EE4intlE",
    "1EEC1EP15__locale_structPKcm 1EEC1EPSt18__moneypunct_cacheIcLb1EEm 1EEC1Em",
    "1EEC2EP15__locale_structPKcm 1EEC2EPSt18__moneypunct_cacheIcLb1EEm 1EEC2Em 1EED0Ev 1EED1Ev",
    "1EED2Ev"]),
  ("_ZNSt7__cxx1110moneypunctIwLb", [
    "0EE24_M_initialize_moneypunctEP15__locale_structPKc 0EE2idE 0EE4intlE",
    "0EEC1EP15__locale_structPKcm 0EEC1EPSt18__moneypunct_cacheIwLb0EEm 0EEC1Em",
    "0EEC2EP15__locale_structPKcm 0EEC2EPSt18__moneypunct_cacheIwLb0EEm 0EEC2Em 0EED0Ev 0EED1Ev",
    "0EED2Ev 1EE24_M_initialize_moneypunctEP15__locale_structPKc 1EE2idE 1EE4intlE",
    "1EEC1EP15__locale_structPKcm 1EEC1EPSt18__moneypunct_cacheIwLb1EEm 1EEC1Em",
    "1EEC2EP15__locale_structPKcm 1EEC2EPSt18__moneypunct_cacheIwLb1EEm 1EEC2Em 1EED0Ev 1EED1Ev",
    "1EED2Ev"]),
  ("_ZNSt7__cxx1112basic_stringIcSt11char_traitsIcESaIcEE", [
    "10_M_destroyEm 10_M_disposeEv 10_M_replaceEmmPKcm 10_S_compareEmm 11_M_capacityEm",
    "12_Alloc_hiderC1EPcOS3_ 12_Alloc_hiderC1EPcRKS3_ 12_Alloc_hiderC2EPcOS3_",
    "12_Alloc_hiderC2EPcRKS3_ 12_M_constructEmc",
    "12_M_constructIN9__gnu_cxx17__normal_iteratorIPKcS4_EEEEvT_SB_St20forward_iterator_tag",
    "12_M_constructIN9__gnu_cxx17__normal_iteratorIPcS4_EEEEvT_SA_St20forward_iterator_tag",
    "12_M_constructIPKcEEvT_S8_St20forward_iterator_tag",
    "12_M_constructIPcEEvT_S7_St20forward_iterator_tag",
    "12__sv_wrapperC1ESt17basic_string_viewIcS2_E 12__sv_wrapperC2ESt17basic_string_viewIcS2_E",
    "13_M_local_dataEv 13_M_set_lengthEm",
    "13_S_copy_charsEPcN9__gnu_cxx17__normal_iteratorIPKcS4_EESA_",
    "13_S_copy_charsEPcN9__gnu_cxx17__normal_iteratorIS5_S4_EES8_ 13_S_copy_charsEPcPKcS7_",
    "13_S_copy_charsEPcS5_S5_ 13shrink_to_fitEv 14_M_replace_auxEmmmc 16_M_get_allocatorEv",
    "17_S_to_string_viewESt17basic_string_viewIcS2_E 18_M_construct_aux_2Emc 2atEm 3endEv",
    "4backEv 4dataEv 4nposE 4rendEv 4swapERS4_ 5beginEv 5clearEv",
    "5eraseEN9__gnu_cxx17__normal_iteratorIPKcS4_EE",
    "5eraseEN9__gnu_cxx17__normal_iteratorIPKcS4_EES9_",
    "5eraseEN9__gnu_cxx17__normal_iteratorIPcS4_EE",
    "5eraseEN9__gnu_cxx17__normal_iteratorIPcS4_EES8_ 5eraseEmm 5frontEv 6appendEPKc",
    "6appendEPKcm 6appendERKS4_ 6appendERKS4_mm 6appendESt16initializer_listIcE 6appendEmc",
    "6assignEOS4_ 6assignEPKc 6assignEPKcm 6assignERKS4_ 6assignERKS4_mm",
    "6assignESt16initializer_listIcE 6assignEmc",
    "6insertEN9__gnu_cxx17__normal_iteratorIPKcS4_EESt16initializer_listIcE",
    "6insertEN9__gnu_cxx17__normal_iteratorIPKcS4_EEc",
    "6insertEN9__gnu_cxx17__normal_iteratorIPKcS4_EEmc",
    "6insertEN9__gnu_cxx17__normal_iteratorIPcS4_EESt16initializer_listIcE",
    "6insertEN9__gnu_cxx17__normal_iteratorIPcS4_EEc",
    "6insertEN9__gnu_cxx17__normal_iteratorIPcS4_EEmc 6insertEmPKc 6insertEmPKcm 6insertEmRKS4_",
    "6insertEmRKS4_mm 6insertEmmc 6insertIN9__gnu_cxx17__normal_iteratorIPcS4_EEEEvS9_T_SA_",
    "6rbeginEv 6resizeEm 6resizeEmc 8_M_eraseEmm 8pop_backEv 9_M_appendEPKcm 9_M_assignERKS4_",
    "9_M_createERmm 9_M_lengthEm 9_M_mutateEmmPKcm 9_S_assignEPcmc 9push_backEc",
    "C1ENS4_12__sv_wrapperERKS3_ C1EOS4_ C1EOS4_RKS3_ C1EPKcRKS3_ C1EPKcmRKS3_ C1ERKS3_",
    "C1ERKS4_ C1ERKS4_RKS3_ C1ERKS4_mRKS3_ C1ERKS4_mm C1ERKS4_mmRKS3_",
    "C1ESt16initializer_listIcERKS3_ C1EmcRKS3_ C1Ev",
    "C1IN9__gnu_cxx17__normal_iteratorIPcS4_EEvEET_SA_RKS3_ C1IPKcvEET_S8_RKS3_",
    "C1IPcvEET_S7_RKS3_ C2ENS4_12__sv_wrapperERKS3_ C2EOS4_ C2EOS4_RKS3_ C2EPKcRKS3_",
    "C2EPKcmRKS3_ C2ERKS3_ C2ERKS4_ C2ERKS4_RKS3_ C2ERKS4_mRKS3_ C2ERKS4_mm C2ERKS4_mmRKS3_",
    "C2ESt16initializer_listIcERKS3_ C2EmcRKS3_ C2Ev",
    "C2IN9__gnu_cxx17__normal_iteratorIPcS4_EEvEET_SA_RKS3_ C2IPKcvEET_S8_RKS3_",
    "C2IPcvEET_S7_RKS3_ D1Ev D2Ev aSEOS4_ aSEPKc aSERKS4_ aSESt16initializer_listIcE aSEc ixEm",
    "pLEPKc pLERKS4_ pLESt16initializer_listIcE pLEc"]),
  ("_ZNSt7__cxx1112basic_stringIcSt11char_traitsIcESaIcEE7", [
    "_M_dataEPc _S_copyEPcPKcm _S_moveEPcPKcm"]),
  ("_ZNSt7__cxx1112basic_stringIcSt11char_traitsIcESaIcEE7re", ["serveEm serveEv"]),
  ("_ZNSt7__cxx1112basic_stringIcSt11char_traitsIcESaIcEE7replaceE", [
    "mmPKc mmPKcm mmRKS4_ mmRKS4_mm mmmc"]),
  ("_ZNSt7__cxx1112basic_stringIcSt11char_traitsIcESaIcEE7replaceEN9__gnu_cxx17__normal_i", [
    "teratorIPKcS4_EES9_NS6_IPcS4_EESB_ teratorIPKcS4_EES9_PcSA_ teratorIPKcS4_EES9_RKS4_",
    "teratorIPKcS4_EES9_S8_ teratorIPKcS4_EES9_S8_S8_ teratorIPKcS4_EES9_S8_m",
    "teratorIPKcS4_EES9_S9_S9_ teratorIPKcS4_EES9_St16initializer_listIcE teratorIPKcS4_EES9_mc",
    "teratorIPcS4_EES8_NS6_IPKcS4_EESB_ teratorIPcS4_EES8_PKc teratorIPcS4_EES8_PKcSA_",
    "teratorIPcS4_EES8_PKcm teratorIPcS4_EES8_RKS4_ teratorIPcS4_EES8_S7_S7_",
    "teratorIPcS4_EES8_S8_S8_ teratorIPcS4_EES8_mc"]),
  ("_ZNSt7__cxx1112basic_stringIwSt11char_traitsIwESaIwEE", [
    "10_M_destroyEm 10_M_disposeEv 10_M_replaceEmmPKwm 10_S_compareEmm 11_M_capacityEm",
    "12_Alloc_hiderC1EPwOS3_ 12_Alloc_hiderC1EPwRKS3_ 12_Alloc_hiderC2EPwOS3_",
    "12_Alloc_hiderC2EPwRKS3_ 12_M_constructEmw",
    "12_M_constructIN9__gnu_cxx17__normal_iteratorIPKwS4_EEEEvT_SB_St20forward_iterator_tag",
    "12_M_constructIN9__gnu_cxx17__normal_iteratorIPwS4_EEEEvT_SA_St20forward_iterator_tag",
    "12_M_constructIPKwEEvT_S8_St20forward_iterator_tag",
    "12_M_constructIPwEEvT_S7_St20forward_iterator_tag",
    "12__sv_wrapperC1ESt17basic_string_viewIwS2_E 12__sv_wrapperC2ESt17basic_string_viewIwS2_E",
    "13_M_local_dataEv 13_M_set_lengthEm",
    "13_S_copy_charsEPwN9__gnu_cxx17__normal_iteratorIPKwS4_EESA_",
    "13_S_copy_charsEPwN9__gnu_cxx17__normal_iteratorIS5_S4_EES8_ 13_S_copy_charsEPwPKwS7_",
    "13_S_copy_charsEPwS5_S5_ 13shrink_to_fitEv 14_M_replace_auxEmmmw 16_M_get_allocatorEv",
    "17_S_to_string_viewESt17basic_string_viewIwS2_E 18_M_construct_aux_2Emw 2atEm 3endEv",
    "4backEv 4dataEv 4nposE 4rendEv 4swapERS4_ 5beginEv 5clearEv",
    "5eraseEN9__gnu_cxx17__normal_iteratorIPKwS4_EE",
    "5eraseEN9__gnu_cxx17__normal_iteratorIPKwS4_EES9_",
    "5eraseEN9__gnu_cxx17__normal_iteratorIPwS4_EE",
    "5eraseEN9__gnu_cxx17__normal_iteratorIPwS4_EES8_ 5eraseEmm 5frontEv 6appendEPKw",
    "6appendEPKwm 6appendERKS4_ 6appendERKS4_mm 6appendESt16initializer_listIwE 6appendEmw",
    "6assignEOS4_ 6assignEPKw 6assignEPKwm 6assignERKS4_ 6assignERKS4_mm",
    "6assignESt16initializer_listIwE 6assignEmw",
    "6insertEN9__gnu_cxx17__normal_iteratorIPKwS4_EESt16initializer_listIwE",
    "6insertEN9__gnu_cxx17__normal_iteratorIPKwS4_EEmw",
    "6insertEN9__gnu_cxx17__normal_iteratorIPKwS4_EEw",
    "6insertEN9__gnu_cxx17__normal_iteratorIPwS4_EESt16initializer_listIwE",
    "6insertEN9__gnu_cxx17__normal_iteratorIPwS4_EEmw",
    "6insertEN9__gnu_cxx17__normal_iteratorIPwS4_EEw 6insertEmPKw 6insertEmPKwm 6insertEmRKS4_",
    "6insertEmRKS4_mm 6insertEmmw 6insertIN9__gnu_cxx17__normal_iteratorIPwS4_EEEEvS9_T_SA_",
    "6rbeginEv 6resizeEm 6resizeEmw 8_M_eraseEmm 8pop_backEv 9_M_appendEPKwm 9_M_assignERKS4_",
    "9_M_createERmm 9_M_lengthEm 9_M_mutateEmmPKwm 9_S_assignEPwmw 9push_backEw",
    "C1ENS4_12__sv_wrapperERKS3_ C1EOS4_ C1EOS4_RKS3_ C1EPKwRKS3_ C1EPKwmRKS3_ C1ERKS3_",
    "C1ERKS4_ C1ERKS4_RKS3_ C1ERKS4_mRKS3_ C1ERKS4_mm C1ERKS4_mmRKS3_",
    "C1ESt16initializer_listIwERKS3_ C1EmwRKS3_ C1Ev",
    "C1IN9__gnu_cxx17__normal_iteratorIPwS4_EEvEET_SA_RKS3_ C1IPKwvEET_S8_RKS3_",
    "C1IPwvEET_S7_RKS3_ C2ENS4_12__sv_wrapperERKS3_ C2EOS4_ C2EOS4_RKS3_ C2EPKwRKS3_",
    "C2EPKwmRKS3_ C2ERKS3_ C2ERKS4_ C2ERKS4_RKS3_ C2ERKS4_mRKS3_ C2ERKS4_mm C2ERKS4_mmRKS3_",
    "C2ESt16initializer_listIwERKS3_ C2EmwRKS3_ C2Ev",
    "C2IN9__gnu_cxx17__normal_iteratorIPwS4_EEvEET_SA_RKS3_ C2IPKwvEET_S8_RKS3_",
    "C2IPwvEET_S7_RKS3_ D1Ev D2Ev aSEOS4_ aSEPKw aSERKS4_ aSESt16initializer_listIwE aSEw ixEm",
    "pLEPKw pLERKS4_ pLESt16initializer_listIwE pLEw"]),
  ("_ZNSt7__cxx1112basic_stringIwSt11char_traitsIwESaIwEE7", [
    "_M_dataEPw _S_copyEPwPKwm _S_moveEPwPKwm"]),
  ("_ZNSt7__cxx1112basic_stringIwSt11char_traitsIwESaIwEE7re", ["serveEm serveEv"]),
  ("_ZNSt7__cxx1112basic_stringIwSt11char_traitsIwESaIwEE7replaceE", [
    "mmPKw mmPKwm mmRKS4_ mmRKS4_mm mmmw"]),
  ("_ZNSt7__cxx1112basic_stringIwSt11char_traitsIwESaIwEE7replaceEN9__gnu_cxx17__normal_i", [
    "teratorIPKwS4_EES9_NS6_IPwS4_EESB_ teratorIPKwS4_EES9_PwSA_ teratorIPKwS4_EES9_RKS4_",
    "teratorIPKwS4_EES9_S8_ teratorIPKwS4_EES9_S8_S8_ teratorIPKwS4_EES9_S8_m",
    "teratorIPKwS4_EES9_S9_S9_ teratorIPKwS4_EES9_St16initializer_listIwE teratorIPKwS4_EES9_mw",
    "teratorIPwS4_EES8_NS6_IPKwS4_EESB_ teratorIPwS4_EES8_PKw teratorIPwS4_EES8_PKwSA_",
    "teratorIPwS4_EES8_PKwm teratorIPwS4_EES8_RKS4_ teratorIPwS4_EES8_S7_S7_",
    "teratorIPwS4_EES8_S8_S8_ teratorIPwS4_EES8_mw"]),
  ("_ZNSt7__cxx1114collate_bynameI", [
    "cEC1EPKcm cEC1ERKNS_12basic_stringIcSt11char_traitsIcESaIcEEEm cEC2EPKcm",
    "cEC2ERKNS_12basic_stringIcSt11char_traitsIcESaIcEEEm cED0Ev cED1Ev cED2Ev wEC1EPKcm",
    "wEC1ERKNS_12basic_stringIcSt11char_traitsIcESaIcEEEm wEC2EPKcm",
    "wEC2ERKNS_12basic_stringIcSt11char_traitsIcESaIcEEEm wED0Ev wED1Ev wED2Ev"]),
  ("_ZNSt7__cxx1115basic_stringbufIcSt11char_traitsIcESaIcEE", [
    "14__xfer_bufptrsC1ERKS4_PS4_ 14__xfer_bufptrsC2ERKS4_PS4_ 14__xfer_bufptrsD1Ev",
    "14__xfer_bufptrsD2Ev 15_M_update_egptrEv 17_M_stringbuf_initESt13_Ios_Openmode",
    "3strEONS_12basic_stringIcS2_S3_EE 3strERKNS_12basic_stringIcS2_S3_EE 4swapERS4_",
    "6setbufEPcl 7_M_syncEPcmm 7seekoffElSt12_Ios_SeekdirSt13_Ios_Openmode",
    "7seekposESt4fposI11__mbstate_tESt13_Ios_Openmode 8_M_pbumpEPcS5_l 8overflowEi 9pbackfailEi",
    "9showmanycEv 9underflowEv C1EONS_12basic_stringIcS2_S3_EESt13_Ios_Openmode C1EOS4_",
    "C1EOS4_ONS4_14__xfer_bufptrsE C1EOS4_RKS3_ C1EOS4_RKS3_ONS4_14__xfer_bufptrsE",
    "C1ERKNS_12basic_stringIcS2_S3_EESt13_Ios_Openmode C1ERKS3_ C1ESt13_Ios_Openmode",
    "C1ESt13_Ios_OpenmodeRKS3_ C1Ev C2EONS_12basic_stringIcS2_S3_EESt13_Ios_Openmode C2EOS4_",
    "C2EOS4_ONS4_14__xfer_bufptrsE C2EOS4_RKS3_ C2EOS4_RKS3_ONS4_14__xfer_bufptrsE",
    "C2ERKNS_12basic_stringIcS2_S3_EESt13_Ios_Openmode C2ERKS3_ C2ESt13_Ios_Openmode",
    "C2ESt13_Ios_OpenmodeRKS3_ C2Ev D0Ev D1Ev D2Ev aSEOS4_"]),
  ("_ZNSt7__cxx1115basic_stringbufIwSt11char_traitsIwESaIwEE", [
    "14__xfer_bufptrsC1ERKS4_PS4_ 14__xfer_bufptrsC2ERKS4_PS4_ 14__xfer_bufptrsD1Ev",
    "14__xfer_bufptrsD2Ev 15_M_update_egptrEv 17_M_stringbuf_initESt13_Ios_Openmode",
    "3strEONS_12basic_stringIwS2_S3_EE 3strERKNS_12basic_stringIwS2_S3_EE 4swapERS4_",
    "6setbufEPwl 7_M_syncEPwmm 7seekoffElSt12_Ios_SeekdirSt13_Ios_Openmode",
    "7seekposESt4fposI11__mbstate_tESt13_Ios_Openmode 8_M_pbumpEPwS5_l 8overflowEj 9pbackfailEj",
    "9showmanycEv 9underflowEv C1EONS_12basic_stringIwS2_S3_EESt13_Ios_Openmode C1EOS4_",
    "C1EOS4_ONS4_14__xfer_bufptrsE C1EOS4_RKS3_ C1EOS4_RKS3_ONS4_14__xfer_bufptrsE",
    "C1ERKNS_12basic_stringIwS2_S3_EESt13_Ios_Openmode C1ERKS3_ C1ESt13_Ios_Openmode",
    "C1ESt13_Ios_OpenmodeRKS3_ C1Ev C2EONS_12basic_stringIwS2_S3_EESt13_Ios_Openmode C2EOS4_",
    "C2EOS4_ONS4_14__xfer_bufptrsE C2EOS4_RKS3_ C2EOS4_RKS3_ONS4_14__xfer_bufptrsE",
    "C2ERKNS_12basic_stringIwS2_S3_EESt13_Ios_Openmode C2ERKS3_ C2ESt13_Ios_Openmode",
    "C2ESt13_Ios_OpenmodeRKS3_ C2Ev D0Ev D1Ev D2Ev aSEOS4_"]),
  ("_ZNSt7__cxx1115messages_bynameI", [
    "cEC1EPKcm cEC1ERKNS_12basic_stringIcSt11char_traitsIcESaIcEEEm cEC2EPKcm",
    "cEC2ERKNS_12basic_stringIcSt11char_traitsIcESaIcEEEm cED0Ev cED1Ev cED2Ev wEC1EPKcm",
    "wEC1ERKNS_12basic_stringIcSt11char_traitsIcESaIcEEEm wEC2EPKcm",
    "wEC2ERKNS_12basic_stringIcSt11char_traitsIcESaIcEEEm wED0Ev wED1Ev wED2Ev"]),
  ("_ZNSt7__cxx1115numpunct_bynameI", [
    "cEC1EPKcm cEC1ERKNS_12basic_stringIcSt11char_traitsIcESaIcEEEm cEC2EPKcm",
    "cEC2ERKNS_12basic_stringIcSt11char_traitsIcESaIcEEEm cED0Ev cED1Ev cED2Ev wEC1EPKcm",
    "wEC1ERKNS_12basic_stringIcSt11char_traitsIcESaIcEEEm wEC2EPKcm",
    "wEC2ERKNS_12basic_stringIcSt11char_traitsIcESaIcEEEm wED0Ev wED1Ev wED2Ev"]),
  ("_ZNSt7__cxx1115time_get_bynameIcSt19istreambuf_iteratorIcSt11char_traitsIcEEE", [
    "C1EPKcm C1ERKNS_12basic_stringIcS3_SaIcEEEm C2EPKcm C2ERKNS_12basic_stringIcS3_SaIcEEEm",
    "D0Ev D1Ev D2Ev"]),
  ("_ZNSt7__cxx1115time_get_bynameIwSt19istreambuf_iteratorIwSt11char_traitsIwEEE", [
    "C1EPKcm C1ERKNS_12basic_stringIcS2_IcESaIcEEEm C2EPKcm",
    "C2ERKNS_12basic_stringIcS2_IcESaIcEEEm D0Ev D1Ev D2Ev"]),
  ("_ZNSt7__cxx1117moneypunct_bynameI", [
    "cLb0EE4intlE cLb0EEC1EPKcm cLb0EEC1ERKNS_12basic_stringIcSt11char_traitsIcESaIcEEEm",
    "cLb0EEC2EPKcm cLb0EEC2ERKNS_12basic_stringIcSt11char_traitsIcESaIcEEEm cLb0EED0Ev",
    "cLb0EED1Ev cLb0EED2Ev cLb1EE4intlE cLb1EEC1EPKcm",
    "cLb1EEC1ERKNS_12basic_stringIcSt11char_traitsIcESaIcEEEm cLb1EEC2EPKcm",
    "cLb1EEC2ERKNS_12basic_stringIcSt11char_traitsIcESaIcEEEm cLb1EED0Ev cLb1EED1Ev cLb1EED2Ev",
    "wLb0EE4intlE wLb0EEC1EPKcm wLb0EEC1ERKNS_12basic_stringIcSt11char_traitsIcESaIcEEEm",
    "wLb0EEC2EPKcm wLb0EEC2ERKNS_12basic_stringIcSt11char_traitsIcESaIcEEEm wLb0EED0Ev",
    "wLb0EED1Ev wLb0EED2Ev wLb1EE4intlE wLb1EEC1EPKcm",
    "wLb1EEC1ERKNS_12basic_stringIcSt11char_traitsIcESaIcEEEm wLb1EEC2EPKcm",
    "wLb1EEC2ERKNS_12basic_stringIcSt11char_traitsIcESaIcEEEm wLb1EED0Ev wLb1EED1Ev wLb1EED2Ev"]),
  ("_ZNSt7__cxx1118basic_stringstreamIcSt11char_traitsIcESaIcEE", [
    "3strEONS_12basic_stringIcS2_S3_EE 3strERKNS_12basic_stringIcS2_S3_EE 4swapERS4_",
    "C1EONS_12basic_stringIcS2_S3_EESt13_Ios_Openmode C1EOS4_",
    "C1ERKNS_12basic_stringIcS2_S3_EESt13_Ios_Openmode C1ESt13_Ios_Openmode",
    "C1ESt13_Ios_OpenmodeRKS3_ C1Ev C2EONS_12basic_stringIcS2_S3_EESt13_Ios_Openmode C2EOS4_",
    "C2ERKNS_12basic_stringIcS2_S3_EESt13_Ios_Openmode C2ESt13_Ios_Openmode",
    "C2ESt13_Ios_OpenmodeRKS3_ C2Ev D0Ev D1Ev D2Ev aSEOS4_"]),
  ("_ZNSt7__cxx1118basic_stringstreamIwSt11char_traitsIwESaIwEE", [
    "3strEONS_12basic_stringIwS2_S3_EE 3strERKNS_12basic_stringIwS2_S3_EE 4swapERS4_",
    "C1EONS_12basic_stringIwS2_S3_EESt13_Ios_Openmode C1EOS4_",
    "C1ERKNS_12basic_stringIwS2_S3_EESt13_Ios_Openmode C1ESt13_Ios_Openmode",
    "C1ESt13_Ios_OpenmodeRKS3_ C1Ev C2EONS_12basic_stringIwS2_S3_EESt13_Ios_Openmode C2EOS4_",
    "C2ERKNS_12basic_stringIwS2_S3_EESt13_Ios_Openmode C2ESt13_Ios_Openmode",
    "C2ESt13_Ios_OpenmodeRKS3_ C2Ev D0Ev D1Ev D2Ev aSEOS4_"]),
  ("_ZNSt7__cxx1119basic_istringstreamIcSt11char_traitsIcESaIcEE", [
    "3strEONS_12basic_stringIcS2_S3_EE 3strERKNS_12basic_stringIcS2_S3_EE 4swapERS4_",
    "C1EONS_12basic_stringIcS2_S3_EESt13_Ios_Openmode C1EOS4_",
    "C1ERKNS_12basic_stringIcS2_S3_EESt13_Ios_Openmode C1ESt13_Ios_Openmode",
    "C1ESt13_Ios_OpenmodeRKS3_ C1Ev C2EONS_12basic_stringIcS2_S3_EESt13_Ios_Openmode C2EOS4_",
    "C2ERKNS_12basic_stringIcS2_S3_EESt13_Ios_Openmode C2ESt13_Ios_Openmode",
    "C2ESt13_Ios_OpenmodeRKS3_ C2Ev D0Ev D1Ev D2Ev aSEOS4_"]),
  ("_ZNSt7__cxx1119basic_istringstreamIwSt11char_traitsIwESaIwEE", [
    "3strEONS_12basic_stringIwS2_S3_EE 3strERKNS_12basic_stringIwS2_S3_EE 4swapERS4_",
    "C1EONS_12basic_stringIwS2_S3_EESt13_Ios_Openmode C1EOS4_",
    "C1ERKNS_12basic_stringIwS2_S3_EESt13_Ios_Openmode C1ESt13_Ios_Openmode",
    "C1ESt13_Ios_OpenmodeRKS3_ C1Ev C2EONS_12basic_stringIwS2_S3_EESt13_Ios_Openmode C2EOS4_",
    "C2ERKNS_12basic_stringIwS2_S3_EESt13_Ios_Openmode C2ESt13_Ios_Openmode",
    "C2ESt13_Ios_OpenmodeRKS3_ C2Ev D0Ev D1Ev D2Ev aSEOS4_"]),
  ("_ZNSt7__cxx1119basic_ostringstreamIcSt11char_traitsIcESaIcEE", [
    "3strEONS_12basic_stringIcS2_S3_EE 3strERKNS_12basic_stringIcS2_S3_EE 4swapERS4_",
    "C1EONS_12basic_stringIcS2_S3_EESt13_Ios_Openmode C1EOS4_",
    "C1ERKNS_12basic_stringIcS2_S3_EESt13_Ios_Openmode C1ESt13_Ios_Openmode",
    "C1ESt13_Ios_OpenmodeRKS3_ C1Ev C2EONS_12basic_stringIcS2_S3_EESt13_Ios_Openmode C2EOS4_",
    "C2ERKNS_12basic_stringIcS2_S3_EESt13_Ios_Openmode C2ESt13_Ios_Openmode",
    "C2ESt13_Ios_OpenmodeRKS3_ C2Ev D0Ev D1Ev D2Ev aSEOS4_"]),
  ("_ZNSt7__cxx1119basic_ostringstreamIwSt11char_traitsIwESaIwEE", [
    "3strEONS_12basic_stringIwS2_S3_EE 3strERKNS_12basic_stringIwS2_S3_EE 4swapERS4_",
    "C1EONS_12basic_stringIwS2_S3_EESt13_Ios_Openmode C1EOS4_",
    "C1ERKNS_12basic_stringIwS2_S3_EESt13_Ios_Openmode C1ESt13_Ios_Openmode",
    "C1ESt13_Ios_OpenmodeRKS3_ C1Ev C2EONS_12basic_stringIwS2_S3_EESt13_Ios_Openmode C2EOS4_",
    "C2ERKNS_12basic_stringIwS2_S3_EESt13_Ios_Openmode C2ESt13_Ios_Openmode",
    "C2ESt13_Ios_OpenmodeRKS3_ C2Ev D0Ev D1Ev D2Ev aSEOS4_"]),
  ("_ZNSt7__cxx117collateI", [
    "cE2idE cEC1EP15__locale_structm cEC1Em cEC2EP15__locale_structm cEC2Em cED0Ev cED1Ev",
    "cED2Ev wE2idE wEC1EP15__locale_structm wEC1Em wEC2EP15__locale_structm wEC2Em wED0Ev",
    "wED1Ev wED2Ev"]),
  ("_ZNSt7__cxx118messagesI", [
    "cE2idE cEC1EP15__locale_structPKcm cEC1Em cEC2EP15__locale_structPKcm cEC2Em cED0Ev cED1Ev",
    "cED2Ev wE2idE wEC1EP15__locale_structPKcm wEC1Em wEC2EP15__locale_structPKcm wEC2Em wED0Ev",
    "wED1Ev wED2Ev"]),
  ("_ZNSt7__cxx118numpunctI", [
    "cE22_M_initialize_numpunctEP15__locale_struct cE2idE cEC1EP15__locale_structm",
    "cEC1EPSt16__numpunct_cacheIcEm cEC1Em cEC2EP15__locale_structm",
    "cEC2EPSt16__numpunct_cacheIcEm cEC2Em cED0Ev cED1Ev cED2Ev",
    "wE22_M_initialize_numpunctEP15__locale_struct wE2idE wEC1EP15__locale_structm",
    "wEC1EPSt16__numpunct_cacheIwEm wEC1Em wEC2EP15__locale_structm",
    "wEC2EPSt16__numpunct_cacheIwEm wEC2Em wED0Ev wED1Ev wED2Ev"]),
  ("_ZNSt7__cxx118time_getIcSt19istreambuf_iteratorIcSt11char_traitsIcEEE", [
    "2idE C1Em C2Em D0Ev D1Ev D2Ev"]),
  ("_ZNSt7__cxx118time_getIwSt19istreambuf_iteratorIwSt11char_traitsIwEEE", [
    "2idE C1Em C2Em D0Ev D1Ev D2Ev"]),
  ("_ZNSt7__cxx119money_getIcSt19istreambuf_iteratorIcSt11char_traitsIcEEE", [
    "2idE C1Em C2Em D0Ev D1Ev D2Ev"]),
  ("_ZNSt7__cxx119money_getIwSt19istreambuf_iteratorIwSt11char_traitsIwEEE", [
    "2idE C1Em C2Em D0Ev D1Ev D2Ev"]),
  ("_ZNSt7__cxx119money_putIcSt19ostreambuf_iteratorIcSt11char_traitsIcEEE", [
    "2idE C1Em C2Em D0Ev D1Ev D2Ev"]),
  ("_ZNSt7__cxx119money_putIwSt19ostreambuf_iteratorIwSt11char_traitsIwEEE", [
    "2idE C1Em C2Em D0Ev D1Ev D2Ev"])]

end GuestBridge.Posix.SystemLibrary
