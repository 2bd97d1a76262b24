import GuestBridge.Posix.SystemLibrary.NameFamily

/-!
Mangled symbols of the standard library of C++ for members of locales and their facets.
-/
namespace GuestBridge.Posix.SystemLibrary

def localeSymbols : List String := families [
  ("_ZNKSt", ["6locale2id5_M_idEv 6locale4nameB5cxx11Ev 6locale4nameEv 6localeeqERKS_"]),
  ("_ZNKSt10moneypunctIcLb", [
    "0EE10neg_formatEv 0EE10pos_formatEv 0EE11curr_symbolEv 0EE11do_groupingEv",
    "0EE11frac_digitsEv 0EE13decimal_pointEv 0EE13do_neg_formatEv 0EE13do_pos_formatEv",
    "0EE13negative_signEv 0EE13positive_signEv 0EE13thousands_sepEv 0EE14do_curr_symbolEv",
    "0EE14do_frac_digitsEv 0EE16do_decimal_pointEv 0EE16do_negative_signEv",
    "0EE16do_positive_signEv 0EE16do_thousands_sepEv 0EE8groupingEv 1EE10neg_formatEv",
    "1EE10pos_formatEv 1EE11curr_symbolEv 1EE11do_groupingEv 1EE11frac_digitsEv",
    "1EE13decimal_pointEv 1EE13do_neg_formatEv 1EE13do_pos_formatEv 1EE13negative_signEv",
    "1EE13positive_signEv 1EE13thousands_sepEv 1EE14do_curr_symbolEv 1EE14do_frac_digitsEv",
    "1EE16do_decimal_pointEv 1EE16do_negative_signEv 1EE16do_positive_signEv",
    "1EE16do_thousands_sepEv 1EE8groupingEv"]),
  ("_ZNKSt10moneypunctIwLb", [
    "0EE10neg_formatEv 0EE10pos_formatEv 0EE11curr_symbolEv 0EE11do_groupingEv",
    "0EE11frac_digitsEv 0EE13decimal_pointEv 0EE13do_neg_formatEv 0EE13do_pos_formatEv",
    "0EE13negative_signEv 0EE13positive_signEv 0EE13thousands_sepEv 0EE14do_curr_symbolEv",
    "0EE14do_frac_digitsEv 0EE16do_decimal_pointEv 0EE16do_negative_signEv",
    "0EE16do_positive_signEv 0EE16do_thousands_sepEv 0EE8groupingEv 1EE10neg_formatEv",
    "1EE10pos_formatEv 1EE11curr_symbolEv 1EE11do_groupingEv 1EE11frac_digitsEv",
    "1EE13decimal_pointEv 1EE13do_neg_formatEv 1EE13do_pos_formatEv 1EE13negative_signEv",
    "1EE13positive_signEv 1EE13thousands_sepEv 1EE14do_curr_symbolEv 1EE14do_frac_digitsEv",
    "1EE16do_decimal_pointEv 1EE16do_negative_signEv 1EE16do_positive_signEv",
    "1EE16do_thousands_sepEv 1EE8groupingEv"]),
  ("_ZNKSt11__timepunctI", [
    "cE15_M_am_pm_formatEPKc cE15_M_am_pm_formatEPPKc cE15_M_date_formatsEPPKc",
    "cE15_M_time_formatsEPPKc cE19_M_days_abbreviatedEPPKc cE20_M_date_time_formatsEPPKc",
    "cE21_M_months_abbreviatedEPPKc cE6_M_putEPcmPKcPK2tm cE7_M_daysEPPKc cE8_M_am_pmEPPKc",
    "cE9_M_monthsEPPKc wE15_M_am_pm_formatEPKw wE15_M_am_pm_formatEPPKw",
    "wE15_M_date_formatsEPPKw wE15_M_time_formatsEPPKw wE19_M_days_abbreviatedEPPKw",
    "wE20_M_date_time_formatsEPPKw wE21_M_months_abbreviatedEPPKw wE6_M_putEPwmPKwPK2tm",
    "wE7_M_daysEPPKw wE8_M_am_pmEPPKw wE9_M_monthsEPPKw"]),
  ("_ZNKSt15__exception_ptr13exception_ptr", ["20__cxa_exception_typeEv cvMS0_FvvEEv ntEv"]),
  ("_ZNKSt19__codecvt_utf8_baseI", [
    "DiE10do_unshiftER11__mbstate_tPcS3_RS3_ DiE11do_encodingEv DiE13do_max_lengthEv",
    "DiE16do_always_noconvEv DiE5do_inER11__mbstate_tPKcS4_RS4_PDiS6_RS6_",
    "DiE6do_outER11__mbstate_tPKDiS4_RS4_PcS6_RS6_ DiE9do_lengthER11__mbstate_tPKcS4_m",
    "DsE10do_unshiftER11__mbstate_tPcS3_RS3_ DsE11do_encodingEv DsE13do_max_lengthEv",
    "DsE16do_always_noconvEv DsE5do_inER11__mbstate_tPKcS4_RS4_PDsS6_RS6_",
    "DsE6do_outER11__mbstate_tPKDsS4_RS4_PcS6_RS6_ DsE9do_lengthER11__mbstate_tPKcS4_m",
    "wE10do_unshiftER11__mbstate_tPcS3_RS3_ wE11do_encodingEv wE13do_max_lengthEv",
    "wE16do_always_noconvEv wE5do_inER11__mbstate_tPKcS4_RS4_PwS6_RS6_",
    "wE6do_outER11__mbstate_tPKwS4_RS4_PcS6_RS6_ wE9do_lengthER11__mbstate_tPKcS4_m"]),
  ("_ZNKSt20__codecvt_utf16_baseI", [
    "DiE10do_unshiftER11__mbstate_tPcS3_RS3_ DiE11do_encodingEv DiE13do_max_lengthEv",
    "DiE16do_always_noconvEv DiE5do_inER11__mbstate_tPKcS4_RS4_PDiS6_RS6_",
    "DiE6do_outER11__mbstate_tPKDiS4_RS4_PcS6_RS6_ DiE9do_lengthER11__mbstate_tPKcS4_m",
    "DsE10do_unshiftER11__mbstate_tPcS3_RS3_ DsE11do_encodingEv DsE13do_max_lengthEv",
    "DsE16do_always_noconvEv DsE5do_inER11__mbstate_tPKcS4_RS4_PDsS6_RS6_",
    "DsE6do_outER11__mbstate_tPKDsS4_RS4_PcS6_RS6_ DsE9do_lengthER11__mbstate_tPKcS4_m",
    "wE10do_unshiftER11__mbstate_tPcS3_RS3_ wE11do_encodingEv wE13do_max_lengthEv",
    "wE16do_always_noconvEv wE5do_inER11__mbstate_tPKcS4_RS4_PwS6_RS6_",
    "wE6do_outER11__mbstate_tPKwS4_RS4_PcS6_RS6_ wE9do_lengthER11__mbstate_tPKcS4_m"]),
  ("_ZNKSt25__codecvt_utf8_utf16_baseI", [
    "DiE10do_unshiftER11__mbstate_tPcS3_RS3_ DiE11do_encodingEv DiE13do_max_lengthEv",
    "DiE16do_always_noconvEv DiE5do_inER11__mbstate_tPKcS4_RS4_PDiS6_RS6_",
    "DiE6do_outER11__mbstate_tPKDiS4_RS4_PcS6_RS6_ DiE9do_lengthER11__mbstate_tPKcS4_m",
    "DsE10do_unshiftER11__mbstate_tPcS3_RS3_ DsE11do_encodingEv DsE13do_max_lengthEv",
    "DsE16do_always_noconvEv DsE5do_inER11__mbstate_tPKcS4_RS4_PDsS6_RS6_",
    "DsE6do_outER11__mbstate_tPKDsS4_RS4_PcS6_RS6_ DsE9do_lengthER11__mbstate_tPKcS4_m",
    "wE10do_unshiftER11__mbstate_tPcS3_RS3_ wE11do_encodingEv wE13do_max_lengthEv",
    "wE16do_always_noconvEv wE5do_inER11__mbstate_tPKcS4_RS4_PwS6_RS6_",
    "wE6do_outER11__mbstate_tPKwS4_RS4_PcS6_RS6_ wE9do_lengthER11__mbstate_tPKcS4_m"]),
  ("_ZNKSt5ctypeI", [
    "cE10do_tolowerEPcPKc cE10do_tolowerEc cE10do_toupperEPcPKc cE10do_toupperEc",
    "cE13_M_widen_initEv cE14_M_narrow_initEv cE8do_widenEPKcS2_Pc cE8do_widenEc",
    "cE9do_narrowEPKcS2_cPc cE9do_narrowEcc wE10do_scan_isEtPKwS2_ wE10do_tolowerEPwPKw",
    "wE10do_tolowerEw wE10do_toupperEPwPKw wE10do_toupperEw wE11do_scan_notEtPKwS2_",
    "wE19_M_convert_to_wmaskEt wE5do_isEPKwS2_Pt wE5do_isEtw wE8do_widenEPKcS2_Pw wE8do_widenEc",
    "wE9do_narrowEPKwS2_cPc wE9do_narrowEwc"]),
  ("_ZNKSt7codecvtIDiDu11__mbstate_tE", [
    "10do_unshiftERS0_PDuS3_RS3_ 11do_encodingEv 13do_max_lengthEv 16do_always_noconvEv",
    "5do_inERS0_PKDuS4_RS4_PDiS6_RS6_ 6do_outERS0_PKDiS4_RS4_PDuS6_RS6_ 9do_lengthERS0_PKDuS4_m"]),
  ("_ZNKSt7codecvtIDic11__mbstate_tE", [
    "10do_unshiftERS0_PcS3_RS3_ 11do_encodingEv 13do_max_lengthEv 16do_always_noconvEv",
    "5do_inERS0_PKcS4_RS4_PDiS6_RS6_ 6do_outERS0_PKDiS4_RS4_PcS6_RS6_ 9do_lengthERS0_PKcS4_m"]),
  ("_ZNKSt7codecvtIDsDu11__mbstate_tE", [
    "10do_unshiftERS0_PDuS3_RS3_ 11do_encodingEv 13do_max_lengthEv 16do_always_noconvEv",
    "5do_inERS0_PKDuS4_RS4_PDsS6_RS6_ 6do_outERS0_PKDsS4_RS4_PDuS6_RS6_ 9do_lengthERS0_PKDuS4_m"]),
  ("_ZNKSt7codecvtIDsc11__mbstate_tE", [
    "10do_unshiftERS0_PcS3_RS3_ 11do_encodingEv 13do_max_lengthEv 16do_always_noconvEv",
    "5do_inERS0_PKcS4_RS4_PDsS6_RS6_ 6do_outERS0_PKDsS4_RS4_PcS6_RS6_ 9do_lengthERS0_PKcS4_m"]),
  ("_ZNKSt7codecvtIcc11__mbstate_tE", [
    "10do_unshiftERS0_PcS3_RS3_ 11do_encodingEv 13do_max_lengthEv 16do_always_noconvEv",
    "5do_inERS0_PKcS4_RS4_PcS6_RS6_ 6do_outERS0_PKcS4_RS4_PcS6_RS6_ 9do_lengthERS0_PKcS4_m"]),
  ("_ZNKSt7codecvtIwc11__mbstate_tE", [
    "10do_unshiftERS0_PcS3_RS3_ 11do_encodingEv 13do_max_lengthEv 16do_always_noconvEv",
    "5do_inERS0_PKcS4_RS4_PwS6_RS6_ 6do_outERS0_PKwS4_RS4_PcS6_RS6_ 9do_lengthERS0_PKcS4_m"]),
  ("_ZNKSt7collateI", [
    "cE10_M_compareEPKcS2_ cE10do_compareEPKcS2_S2_S2_ cE12_M_transformEPcPKcm",
    "cE12do_transformEPKcS2_ cE4hashEPKcS2_ cE7compareEPKcS2_S2_S2_ cE7do_hashEPKcS2_",
    "cE9transformEPKcS2_ wE10_M_compareEPKwS2_ wE10do_compareEPKwS2_S2_S2_",
    "wE12_M_transformEPwPKwm wE12do_transformEPKwS2_ wE4hashEPKwS2_ wE7compareEPKwS2_S2_S2_",
    "wE7do_hashEPKwS2_ wE9transformEPKwS2_"]),
  ("_ZNKSt7num_getIcSt19istreambuf_iteratorIcSt11char_traitsIcEEE", [
    "14_M_extract_intIjEES3_S3_S3_RSt8ios_baseRSt12_Ios_IostateRT_",
    "14_M_extract_intIlEES3_S3_S3_RSt8ios_baseRSt12_Ios_IostateRT_",
    "14_M_extract_intImEES3_S3_S3_RSt8ios_baseRSt12_Ios_IostateRT_",
    "14_M_extract_intItEES3_S3_S3_RSt8ios_baseRSt12_Ios_IostateRT_",
    "14_M_extract_intIxEES3_S3_S3_RSt8ios_baseRSt12_Ios_IostateRT_",
    "14_M_extract_intIyEES3_S3_S3_RSt8ios_baseRSt12_Ios_IostateRT_",
    "16_M_extract_floatES3_S3_RSt8ios_baseRSt12_Ios_IostateRSs"]),
  ("_ZNKSt7num_getIcSt19istreambuf_iteratorIcSt11char_traitsIcEEE3getES3_S3_RSt8ios_baseR", [
    "St12_Ios_IostateRPv St12_Ios_IostateRb St12_Ios_IostateRd St12_Ios_IostateRe",
    "St12_Ios_IostateRf St12_Ios_IostateRj St12_Ios_IostateRl St12_Ios_IostateRm",
    "St12_Ios_IostateRt St12_Ios_IostateRx St12_Ios_IostateRy"]),
  ("_ZNKSt7num_getIcSt19istreambuf_iteratorIcSt11char_traitsIcEEE6do_getES3_S3_RSt8ios_ba", [
    "seRSt12_Ios_IostateRPv seRSt12_Ios_IostateRb seRSt12_Ios_IostateRd seRSt12_Ios_IostateRe",
    "seRSt12_Ios_IostateRf seRSt12_Ios_IostateRj seRSt12_Ios_IostateRl seRSt12_Ios_IostateRm",
    "seRSt12_Ios_IostateRt seRSt12_Ios_IostateRx seRSt12_Ios_IostateRy"]),
  ("_ZNKSt7num_getIwSt19istreambuf_iteratorIwSt11char_traitsIwEEE", [
    "14_M_extract_intIjEES3_S3_S3_RSt8ios_baseRSt12_Ios_IostateRT_",
    "14_M_extract_intIlEES3_S3_S3_RSt8ios_baseRSt12_Ios_IostateRT_",
    "14_M_extract_intImEES3_S3_S3_RSt8ios_baseRSt12_Ios_IostateRT_",
    "14_M_extract_intItEES3_S3_S3_RSt8ios_baseRSt12_Ios_IostateRT_",
    "14_M_extract_intIxEES3_S3_S3_RSt8ios_baseRSt12_Ios_IostateRT_",
    "14_M_extract_intIyEES3_S3_S3_RSt8ios_baseRSt12_Ios_IostateRT_",
    "16_M_extract_floatES3_S3_RSt8ios_baseRSt12_Ios_IostateRSs"]),
  ("_ZNKSt7num_getIwSt19istreambuf_iteratorIwSt11char_traitsIwEEE3getES3_S3_RSt8ios_baseR", [
    "St12_Ios_IostateRPv St12_Ios_IostateRb St12_Ios_IostateRd St12_Ios_IostateRe",
    "St12_Ios_IostateRf St12_Ios_IostateRj St12_Ios_IostateRl St12_Ios_IostateRm",
    "St12_Ios_IostateRt St12_Ios_IostateRx St12_Ios_IostateRy"]),
  ("_ZNKSt7num_getIwSt19istreambuf_iteratorIwSt11char_traitsIwEEE6do_getES3_S3_RSt8ios_ba", [
    "seRSt12_Ios_IostateRPv seRSt12_Ios_IostateRb seRSt12_Ios_IostateRd seRSt12_Ios_IostateRe",
    "seRSt12_Ios_IostateRf seRSt12_Ios_IostateRj seRSt12_Ios_IostateRl seRSt12_Ios_IostateRm",
    "seRSt12_Ios_IostateRt seRSt12_Ios_IostateRx seRSt12_Ios_IostateRy"]),
  ("_ZNKSt7num_putIcSt19ostreambuf_iteratorIcSt11char_traitsIcEEE", [
    "12_M_group_intEPKcmcRSt8ios_basePcS9_Ri 13_M_insert_intIlEES3_S3_RSt8ios_basecT_",
    "13_M_insert_intImEES3_S3_RSt8ios_basecT_ 13_M_insert_intIxEES3_S3_RSt8ios_basecT_",
    "13_M_insert_intIyEES3_S3_RSt8ios_basecT_ 14_M_group_floatEPKcmcS6_PcS7_Ri",
    "15_M_insert_floatIdEES3_S3_RSt8ios_baseccT_ 15_M_insert_floatIeEES3_S3_RSt8ios_baseccT_",
    "6_M_padEclRSt8ios_basePcPKcRi 6do_putES3_RSt8ios_basecPKv 6do_putES3_RSt8ios_basecb",
    "6do_putES3_RSt8ios_basecd 6do_putES3_RSt8ios_basece 6do_putES3_RSt8ios_basecl",
    "6do_putES3_RSt8ios_basecm 6do_putES3_RSt8ios_basecx 6do_putES3_RSt8ios_basecy"]),
  ("_ZNKSt7num_putIcSt19ostreambuf_iteratorIcSt11char_traitsIcEEE3putES3_RSt8ios_basec", [
    "PKv b d e l m x y"]),
  ("_ZNKSt7num_putIwSt19ostreambuf_iteratorIwSt11char_traitsIwEEE", [
    "12_M_group_intEPKcmwRSt8ios_basePwS9_Ri 13_M_insert_intIlEES3_S3_RSt8ios_basewT_",
    "13_M_insert_intImEES3_S3_RSt8ios_basewT_ 13_M_insert_intIxEES3_S3_RSt8ios_basewT_",
    "13_M_insert_intIyEES3_S3_RSt8ios_basewT_ 14_M_group_floatEPKcmwPKwPwS9_Ri",
    "15_M_insert_floatIdEES3_S3_RSt8ios_basewcT_ 15_M_insert_floatIeEES3_S3_RSt8ios_basewcT_",
    "6_M_padEwlRSt8ios_basePwPKwRi 6do_putES3_RSt8ios_basewPKv 6do_putES3_RSt8ios_basewb",
    "6do_putES3_RSt8ios_basewd 6do_putES3_RSt8ios_basewe 6do_putES3_RSt8ios_basewl",
    "6do_putES3_RSt8ios_basewm 6do_putES3_RSt8ios_basewx 6do_putES3_RSt8ios_basewy"]),
  ("_ZNKSt7num_putIwSt19ostreambuf_iteratorIwSt11char_traitsIwEEE3putES3_RSt8ios_basew", [
    "PKv b d e l m x y"]),
  ("_ZNKSt8messagesI", [
    "cE18_M_convert_to_charERKSs cE20_M_convert_from_charEPc cE3getEiiiRKSs",
    "cE4openERKSsRKSt6locale cE4openERKSsRKSt6localePKc cE5closeEi cE6do_getEiiiRKSs",
    "cE7do_openERKSsRKSt6locale cE8do_closeEi",
    "wE18_M_convert_to_charERKSbIwSt11char_traitsIwESaIwEE wE20_M_convert_from_charEPc",
    "wE3getEiiiRKSbIwSt11char_traitsIwESaIwEE wE4openERKSsRKSt6locale",
    "wE4openERKSsRKSt6localePKc wE5closeEi wE6do_getEiiiRKSbIwSt11char_traitsIwESaIwEE",
    "wE7do_openERKSsRKSt6locale wE8do_closeEi"]),
  ("_ZNKSt8numpunctI", [
    "cE11do_groupingEv cE11do_truenameEv cE12do_falsenameEv cE13decimal_pointEv",
    "cE13thousands_sepEv cE16do_decimal_pointEv cE16do_thousands_sepEv cE8groupingEv",
    "cE8truenameEv cE9falsenameEv wE11do_groupingEv wE11do_truenameEv wE12do_falsenameEv",
    "wE13decimal_pointEv wE13thousands_sepEv wE16do_decimal_pointEv wE16do_thousands_sepEv",
    "wE8groupingEv wE8truenameEv wE9falsenameEv"]),
  ("_ZNKSt8time_getIcSt19istreambuf_iteratorIcSt11char_traitsIcEEE", [
    "10date_orderEv 11do_get_dateES3_S3_RSt8ios_baseRSt12_Ios_IostateP2tm",
    "11do_get_timeES3_S3_RSt8ios_baseRSt12_Ios_IostateP2tm",
    "11do_get_yearES3_S3_RSt8ios_baseRSt12_Ios_IostateP2tm",
    "11get_weekdayES3_S3_RSt8ios_baseRSt12_Ios_IostateP2tm 13do_date_orderEv",
    "13get_monthnameES3_S3_RSt8ios_baseRSt12_Ios_IostateP2tm",
    "14_M_extract_numES3_S3_RiiimRSt8ios_baseRSt12_Ios_Iostate",
    "14do_get_weekdayES3_S3_RSt8ios_baseRSt12_Ios_IostateP2tm",
    "15_M_extract_nameES3_S3_RiPPKcmRSt8ios_baseRSt12_Ios_Iostate",
    "16do_get_monthnameES3_S3_RSt8ios_baseRSt12_Ios_IostateP2tm",
    "21_M_extract_via_formatES3_S3_RSt8ios_baseRSt12_Ios_IostateP2tmPKc",
    "21_M_extract_via_formatES3_S3_RSt8ios_baseRSt12_Ios_IostateP2tmPKcRSt16__time_get_state",
    "24_M_extract_wday_or_monthES3_S3_RiPPKcmRSt8ios_baseRSt12_Ios_Iostate",
    "3getES3_S3_RSt8ios_baseRSt12_Ios_IostateP2tmPKcSC_",
    "3getES3_S3_RSt8ios_baseRSt12_Ios_IostateP2tmcc",
    "6do_getES3_S3_RSt8ios_baseRSt12_Ios_IostateP2tmcc",
    "8get_dateES3_S3_RSt8ios_baseRSt12_Ios_IostateP2tm",
    "8get_timeES3_S3_RSt8ios_baseRSt12_Ios_IostateP2tm",
    "8get_yearES3_S3_RSt8ios_baseRSt12_Ios_IostateP2tm"]),
  ("_ZNKSt8time_getIwSt19istreambuf_iteratorIwSt11char_traitsIwEEE", [
    "10date_orderEv 11do_get_dateES3_S3_RSt8ios_baseRSt12_Ios_IostateP2tm",
    "11do_get_timeES3_S3_RSt8ios_baseRSt12_Ios_IostateP2tm",
    "11do_get_yearES3_S3_RSt8ios_baseRSt12_Ios_IostateP2tm",
    "11get_weekdayES3_S3_RSt8ios_baseRSt12_Ios_IostateP2tm 13do_date_orderEv",
    "13get_monthnameES3_S3_RSt8ios_baseRSt12_Ios_IostateP2tm",
    "14_M_extract_numES3_S3_RiiimRSt8ios_baseRSt12_Ios_Iostate",
    "14do_get_weekdayES3_S3_RSt8ios_baseRSt12_Ios_IostateP2tm",
    "15_M_extract_nameES3_S3_RiPPKwmRSt8ios_baseRSt12_Ios_Iostate",
    "16do_get_monthnameES3_S3_RSt8ios_baseRSt12_Ios_IostateP2tm",
    "21_M_extract_via_formatES3_S3_RSt8ios_baseRSt12_Ios_IostateP2tmPKw",
    "21_M_extract_via_formatES3_S3_RSt8ios_baseRSt12_Ios_IostateP2tmPKwRSt16__time_get_state",
    "24_M_extract_wday_or_monthES3_S3_RiPPKwmRSt8ios_baseRSt12_Ios_Iostate",
    "3getES3_S3_RSt8ios_baseRSt12_Ios_IostateP2tmPKwSC_",
    "3getES3_S3_RSt8ios_baseRSt12_Ios_IostateP2tmcc",
    "6do_getES3_S3_RSt8ios_baseRSt12_Ios_IostateP2tmcc",
    "8get_dateES3_S3_RSt8ios_baseRSt12_Ios_IostateP2tm",
    "8get_timeES3_S3_RSt8ios_baseRSt12_Ios_IostateP2tm",
    "8get_yearES3_S3_RSt8ios_baseRSt12_Ios_IostateP2tm"]),
  ("_ZNKSt8time_putIcSt19ostreambuf_iteratorIcSt11char_traitsIcEEE", [
    "3putES3_RSt8ios_basecPK2tmPKcSB_ 3putES3_RSt8ios_basecPK2tmcc",
    "6do_putES3_RSt8ios_basecPK2tmcc"]),
  ("_ZNKSt8time_putIwSt19ostreambuf_iteratorIwSt11char_traitsIwEEE", [
    "3putES3_RSt8ios_basewPK2tmPKwSB_ 3putES3_RSt8ios_basewPK2tmcc",
    "6do_putES3_RSt8ios_basewPK2tmcc"]),
  ("_ZNKSt9money_getIcSt19istreambuf_iteratorIcSt11char_traitsIcEEE", [
    "10_M_extractILb0EEES3_S3_S3_RSt8ios_baseRSt12_Ios_IostateRSs",
    "10_M_extractILb1EEES3_S3_S3_RSt8ios_baseRSt12_Ios_IostateRSs",
    "3getES3_S3_bRSt8ios_baseRSt12_Ios_IostateRSs 3getES3_S3_bRSt8ios_baseRSt12_Ios_IostateRe",
    "6do_getES3_S3_bRSt8ios_baseRSt12_Ios_IostateRSs",
    "6do_getES3_S3_bRSt8ios_baseRSt12_Ios_IostateRe"]),
  ("_ZNKSt9money_getIwSt19istreambuf_iteratorIwSt11char_traitsIwEEE", [
    "10_M_extractILb0EEES3_S3_S3_RSt8ios_baseRSt12_Ios_IostateRSs",
    "10_M_extractILb1EEES3_S3_S3_RSt8ios_baseRSt12_Ios_IostateRSs",
    "3getES3_S3_bRSt8ios_baseRSt12_Ios_IostateRSbIwS2_SaIwEE",
    "3getES3_S3_bRSt8ios_baseRSt12_Ios_IostateRe",
    "6do_getES3_S3_bRSt8ios_baseRSt12_Ios_IostateRSbIwS2_SaIwEE",
    "6do_getES3_S3_bRSt8ios_baseRSt12_Ios_IostateRe"]),
  ("_ZNKSt9money_putIcSt19ostreambuf_iteratorIcSt11char_traitsIcEEE", [
    "3putES3_bRSt8ios_basecRKSs 3putES3_bRSt8ios_basece 6do_putES3_bRSt8ios_basecRKSs",
    "6do_putES3_bRSt8ios_basece 9_M_insertILb0EEES3_S3_RSt8ios_basecRKSs",
    "9_M_insertILb1EEES3_S3_RSt8ios_basecRKSs"]),
  ("_ZNKSt9money_putIwSt19ostreambuf_iteratorIwSt11char_traitsIwEEE", [
    "3putES3_bRSt8ios_basewRKSbIwS2_SaIwEE 3putES3_bRSt8ios_basewe",
    "6do_putES3_bRSt8ios_basewRKSbIwS2_SaIwEE 6do_putES3_bRSt8ios_basewe",
    "9_M_insertILb0EEES3_S3_RSt8ios_basewRKSbIwS2_SaIwEE",
    "9_M_insertILb1EEES3_S3_RSt8ios_basewRKSbIwS2_SaIwEE"]),
  ("_ZNSt10ctype_base", [
    "5alnumE 5alphaE 5blankE 5cntrlE 5digitE 5graphE 5lowerE 5printE 5punctE 5spaceE 5upperE",
    "6xdigitE"]),
  ("_ZNSt10moneypunctIcLb", [
    "0EE24_M_initialize_moneypunctEP15__locale_structPKc 0EE2idE 0EE4intlE",
    "0EEC1EP15__locale_structPKcm 0EEC1EPSt18__moneypunct_cacheIcLb0EEm 0EEC1Em",
    "0EEC2EP15__locale_structPKcm 0EEC2EPSt18__moneypunct_cacheIcLb0EEm 0EEC2Em 0EED0Ev 0EED1Ev",
    "0EED2Ev 1EE24_M_initialize_moneypunctEP15__locale_structPKc 1EE2idE 1EE4intlE",
    "1EEC1EP15__locale_structPKcm 1EEC1EPSt18__moneypunct_cacheIcLb1EEm 1EEC1Em",
    "1EEC2EP15__locale_structPKcm 1EEC2EPSt18__moneypunct_cacheIcLb1EEm 1EEC2Em 1EED0Ev 1EED1Ev",
    "1EED2Ev"]),
  ("_ZNSt10moneypunctIwLb", [
    "0EE24_M_initialize_moneypunctEP15__locale_structPKc 0EE2idE 0EE4intlE",
    "0EEC1EP15__locale_structPKcm 0EEC1EPSt18__moneypunct_cacheIwLb0EEm 0EEC1Em",
    "0EEC2EP15__locale_structPKcm 0EEC2EPSt18__moneypunct_cacheIwLb0EEm 0EEC2Em 0EED0Ev 0EED1Ev",
    "0EED2Ev 1EE24_M_initialize_moneypunctEP15__locale_structPKc 1EE2idE 1EE4intlE",
    "1EEC1EP15__locale_structPKcm 1EEC1EPSt18__moneypunct_cacheIwLb1EEm 1EEC1Em",
    "1EEC2EP15__locale_structPKcm 1EEC2EPSt18__moneypunct_cacheIwLb1EEm 1EEC2Em 1EED0Ev 1EED1Ev",
    "1EED2Ev"]),
  ("_ZNSt11__timepunctI", [
    "cE23_M_initialize_timepunctEP15__locale_struct cE2idE cEC1EP15__locale_structPKcm",
    "cEC1EPSt17__timepunct_cacheIcEm cEC1Em cEC2EP15__locale_structPKcm",
    "cEC2EPSt17__timepunct_cacheIcEm cEC2Em cED0Ev cED1Ev cED2Ev",
    "wE23_M_initialize_timepunctEP15__locale_struct wE2idE wEC1EP15__locale_structPKcm",
    "wEC1EPSt17__timepunct_cacheIwEm wEC1Em wEC2EP15__locale_structPKcm",
    "wEC2EPSt17__timepunct_cacheIwEm wEC2Em wED0Ev wED1Ev wED2Ev"]),
  ("_ZNSt12ctype_bynameI", [
    "cEC1EPKcm cEC1ERKNSt7__cxx1112basic_stringIcSt11char_traitsIcESaIcEEEm cEC1ERKSsm",
    "cEC2EPKcm cEC2ERKNSt7__cxx1112basic_stringIcSt11char_traitsIcESaIcEEEm cEC2ERKSsm cED0Ev",
    "cED1Ev cED2Ev wEC1EPKcm wEC1ERKNSt7__cxx1112basic_stringIcSt11char_traitsIcESaIcEEEm",
    "wEC1ERKSsm wEC2EPKcm wEC2ERKNSt7__cxx1112basic_stringIcSt11char_traitsIcESaIcEEEm",
    "wEC2ERKSsm wED0Ev wED1Ev wED2Ev"]),
  ("_ZNSt14codecvt_bynameIcc11__mbstate_tE", [
    "C1EPKcm C1ERKNSt7__cxx1112basic_stringIcSt11char_traitsIcESaIcEEEm C1ERKSsm C2EPKcm",
    "C2ERKNSt7__cxx1112basic_stringIcSt11char_traitsIcESaIcEEEm C2ERKSsm D0Ev D1Ev D2Ev"]),
  ("_ZNSt14codecvt_bynameIwc11__mbstate_tE", [
    "C1EPKcm C1ERKNSt7__cxx1112basic_stringIcSt11char_traitsIcESaIcEEEm C1ERKSsm C2EPKcm",
    "C2ERKNSt7__cxx1112basic_stringIcSt11char_traitsIcESaIcEEEm C2ERKSsm D0Ev D1Ev D2Ev"]),
  ("_ZNSt14collate_bynameI", [
    "cEC1EPKcm cEC1ERKSsm cEC2EPKcm cEC2ERKSsm cED0Ev cED1Ev cED2Ev wEC1EPKcm wEC1ERKSsm",
    "wEC2EPKcm wEC2ERKSsm wED0Ev wED1Ev wED2Ev"]),
  ("_ZNSt15__exception_ptr", ["eqERKNS_13exception_ptrES2_ neERKNS_13exception_ptrES2_"]),
  ("_ZNSt15__exception_ptr13exception_ptr", [
    "10_M_releaseEv 4swapERS0_ 9_M_addrefEv C1EMS0_FvvE C1EPv C1ERKS0_ C1Ev C2EMS0_FvvE",
    "C2ERKS0_ C2Ev D1Ev D2Ev aSERKS0_"]),
  ("_ZNSt15messages_bynameI", [
    "cEC1EPKcm cEC1ERKSsm cEC2EPKcm cEC2ERKSsm cED0Ev cED1Ev cED2Ev wEC1EPKcm wEC1ERKSsm",
    "wEC2EPKcm wEC2ERKSsm wED0Ev wED1Ev wED2Ev"]),
  ("_ZNSt15numpunct_bynameI", [
    "cEC1EPKcm cEC1ERKSsm cEC2EPKcm cEC2ERKSsm cED0Ev cED1Ev cED2Ev wEC1EPKcm wEC1ERKSsm",
    "wEC2EPKcm wEC2ERKSsm wED0Ev wED1Ev wED2Ev"]),
  ("_ZNSt15time_get_bynameIcSt19istreambuf_iteratorIcSt11char_traitsIcEEE", [
    "C1EPKcm C1ERKSsm C2EPKcm C2ERKSsm D0Ev D1Ev D2Ev"]),
  ("_ZNSt15time_get_bynameIwSt19istreambuf_iteratorIwSt11char_traitsIwEEE", [
    "C1EPKcm C1ERKSsm C2EPKcm C2ERKSsm D0Ev D1Ev D2Ev"]),
  ("_ZNSt15time_put_bynameIcSt19ostreambuf_iteratorIcSt11char_traitsIcEEE", [
    "C1EPKcm C1ERKNSt7__cxx1112basic_stringIcS2_SaIcEEEm C1ERKSsm C2EPKcm",
    "C2ERKNSt7__cxx1112basic_stringIcS2_SaIcEEEm C2ERKSsm D0Ev D1Ev D2Ev"]),
  ("_ZNSt15time_put_bynameIwSt19ostreambuf_iteratorIwSt11char_traitsIwEEE", [
    "C1EPKcm C1ERKSsm C2EPKcm C2ERKSsm D0Ev D1Ev D2Ev"]),
  ("_ZNSt16__numpunct_cacheI", [
    "cE8_M_cacheERKSt6locale cEC1Em cEC2Em cED0Ev cED1Ev cED2Ev wE8_M_cacheERKSt6locale wEC1Em",
    "wEC2Em wED0Ev wED1Ev wED2Ev"]),
  ("_ZNSt17__timepunct_cacheI", [
    "cE12_S_timezonesE cEC1Em cEC2Em cED0Ev cED1Ev cED2Ev wE12_S_timezonesE wEC1Em wEC2Em",
    "wED0Ev wED1Ev wED2Ev"]),
  ("_ZNSt17moneypunct_bynameI", [
    "cLb0EE4intlE cLb0EEC1EPKcm cLb0EEC1ERKSsm cLb0EEC2EPKcm cLb0EEC2ERKSsm cLb0EED0Ev",
    "cLb0EED1Ev cLb0EED2Ev cLb1EE4intlE cLb1EEC1EPKcm cLb1EEC1ERKSsm cLb1EEC2EPKcm",
    "cLb1EEC2ERKSsm cLb1EED0Ev cLb1EED1Ev cLb1EED2Ev wLb0EE4intlE wLb0EEC1EPKcm wLb0EEC1ERKSsm",
    "wLb0EEC2EPKcm wLb0EEC2ERKSsm wLb0EED0Ev wLb0EED1Ev wLb0EED2Ev wLb1EE4intlE wLb1EEC1EPKcm",
    "wLb1EEC1ERKSsm wLb1EEC2EPKcm wLb1EEC2ERKSsm wLb1EED0Ev wLb1EED1Ev wLb1EED2Ev"]),
  ("_ZNSt18__moneypunct_cacheI", [
    "cLb0EE8_M_cacheERKSt6locale cLb0EEC1Em cLb0EEC2Em cLb0EED0Ev cLb0EED1Ev cLb0EED2Ev",
    "cLb1EE8_M_cacheERKSt6locale cLb1EEC1Em cLb1EEC2Em cLb1EED0Ev cLb1EED1Ev cLb1EED2Ev",
    "wLb0EE8_M_cacheERKSt6locale wLb0EEC1Em wLb0EEC2Em wLb0EED0Ev wLb0EED1Ev wLb0EED2Ev",
    "wLb1EE8_M_cacheERKSt6locale wLb1EEC1Em wLb1EEC2Em wLb1EED0Ev wLb1EED1Ev wLb1EED2Ev"]),
  ("_ZNSt19__codecvt_utf8_baseI", [
    "DiED0Ev DiED1Ev DiED2Ev DsED0Ev DsED1Ev DsED2Ev wED0Ev wED1Ev wED2Ev"]),
  ("_ZNSt20__codecvt_utf16_baseI", [
    "DiED0Ev DiED1Ev DiED2Ev DsED0Ev DsED1Ev DsED2Ev wED0Ev wED1Ev wED2Ev"]),
  ("_ZNSt25__codecvt_utf8_utf16_baseI", [
    "DiED0Ev DiED1Ev DiED2Ev DsED0Ev DsED1Ev DsED2Ev wED0Ev wED1Ev wED2Ev"]),
  ("_ZNSt5ctypeI", [
    "cE10table_sizeE cE13classic_tableEv cE2idE cEC1EP15__locale_structPKtbm cEC1EPKtbm",
    "cEC2EP15__locale_structPKtbm cEC2EPKtbm cED0Ev cED1Ev cED2Ev wE19_M_initialize_ctypeEv",
    "wE2idE wEC1EP15__locale_structm wEC1Em wEC2EP15__locale_structm wEC2Em wED0Ev wED1Ev",
    "wED2Ev"]),
  ("_ZNSt6locale", [
    "11_M_coalesceERKS_S1_i 21_S_normalize_categoryEi 3allE 4noneE 4timeE",
    "5_Impl16_M_install_cacheEPKNS_5facetEm 5_Impl16_M_install_facetEPKNS_2idEPKNS_5facetE",
    "5_Impl16_M_replace_facetEPKS0_PKNS_2idE 5_Impl19_M_replace_categoryEPKS0_PKPKNS_2idE",
    "5_Impl21_M_replace_categoriesEPKS0_i 5_ImplC1EPKcm 5_ImplC1ERKS0_m 5_ImplC1Em",
    "5_ImplC2EPKcm 5_ImplC2ERKS0_m 5_ImplC2Em 5_ImplD1Ev 5_ImplD2Ev 5ctypeE",
    "5facet13_S_get_c_nameEv 5facet15_S_get_c_localeEv",
    "5facet17_S_clone_c_localeERP15__locale_struct",
    "5facet18_S_create_c_localeERP15__locale_structPKcS2_",
    "5facet19_S_destroy_c_localeERP15__locale_struct 5facetD0Ev 5facetD1Ev 5facetD2Ev",
    "6globalERKS_ 7classicEv 7collateE 7numericE 8messagesE 8monetaryE C1EPKc C1EPNS_5_ImplE",
    "C1ERKS_ C1ERKS_PKci C1ERKS_S1_i C1Ev C2EPKc C2EPNS_5_ImplE C2ERKS_ C2ERKS_PKci C2ERKS_S1_i",
    "C2Ev D1Ev D2Ev aSERKS_"]),
  ("_ZNSt7codecvtI", [
    "DiDu11__mbstate_tE2idE DiDu11__mbstate_tED0Ev DiDu11__mbstate_tED1Ev",
    "DiDu11__mbstate_tED2Ev Dic11__mbstate_tE2idE Dic11__mbstate_tED0Ev Dic11__mbstate_tED1Ev",
    "Dic11__mbstate_tED2Ev DsDu11__mbstate_tE2idE DsDu11__mbstate_tED0Ev DsDu11__mbstate_tED1Ev",
    "DsDu11__mbstate_tED2Ev Dsc11__mbstate_tE2idE Dsc11__mbstate_tED0Ev Dsc11__mbstate_tED1Ev",
    "Dsc11__mbstate_tED2Ev"]),
  ("_ZNSt7codecvtIcc11__mbstate_tE", [
    "2idE C1EP15__locale_structm C1Em C2EP15__locale_structm C2Em D0Ev D1Ev D2Ev"]),
  ("_ZNSt7codecvtIwc11__mbstate_tE", [
    "2idE C1EP15__locale_structm C1Em C2EP15__locale_structm C2Em D0Ev D1Ev D2Ev"]),
  ("_ZNSt7collateI", [
    "cE2idE cEC1EP15__locale_structm cEC1Em cEC2EP15__locale_structm cEC2Em cED0Ev cED1Ev",
    "cED2Ev wE2idE wEC1EP15__locale_structm wEC1Em wEC2EP15__locale_structm wEC2Em wED0Ev",
    "wED1Ev wED2Ev"]),
  ("_ZNSt7num_getIcSt19istreambuf_iteratorIcSt11char_traitsIcEEE", [
    "2idE C1Em C2Em D0Ev D1Ev D2Ev"]),
  ("_ZNSt7num_getIwSt19istreambuf_iteratorIwSt11char_traitsIwEEE", [
    "2idE C1Em C2Em D0Ev D1Ev D2Ev"]),
  ("_ZNSt7num_putIcSt19ostreambuf_iteratorIcSt11char_traitsIcEEE", [
    "2idE C1Em C2Em D0Ev D1Ev D2Ev"]),
  ("_ZNSt7num_putIwSt19ostreambuf_iteratorIwSt11char_traitsIwEEE", [
    "2idE C1Em C2Em D0Ev D1Ev D2Ev"]),
  ("_ZNSt8messagesI", [
    "cE2idE cEC1EP15__locale_structPKcm cEC1Em cEC2EP15__locale_structPKcm cEC2Em cED0Ev cED1Ev",
    "cED2Ev wE2idE wEC1EP15__locale_structPKcm wEC1Em wEC2EP15__locale_structPKcm wEC2Em wED0Ev",
    "wED1Ev wED2Ev"]),
  ("_ZNSt8numpunctI", [
    "cE22_M_initialize_numpunctEP15__locale_struct cE2idE cEC1EP15__locale_structm",
    "cEC1EPSt16__numpunct_cacheIcEm cEC1Em cEC2EP15__locale_structm",
    "cEC2EPSt16__numpunct_cacheIcEm cEC2Em cED0Ev cED1Ev cED2Ev",
    "wE22_M_initialize_numpunctEP15__locale_struct wE2idE wEC1EP15__locale_structm",
    "wEC1EPSt16__numpunct_cacheIwEm wEC1Em wEC2EP15__locale_structm",
    "wEC2EPSt16__numpunct_cacheIwEm wEC2Em wED0Ev wED1Ev wED2Ev"]),
  ("_ZNSt8time_getIcSt19istreambuf_iteratorIcSt11char_traitsIcEEE", [
    "2idE C1Em C2Em D0Ev D1Ev D2Ev"]),
  ("_ZNSt8time_getIwSt19istreambuf_iteratorIwSt11char_traitsIwEEE", [
    "2idE C1Em C2Em D0Ev D1Ev D2Ev"]),
  ("_ZNSt8time_putIcSt19ostreambuf_iteratorIcSt11char_traitsIcEEE", [
    "2idE C1Em C2Em D0Ev D1Ev D2Ev"]),
  ("_ZNSt8time_putIwSt19ostreambuf_iteratorIwSt11char_traitsIwEEE", [
    "2idE C1Em C2Em D0Ev D1Ev D2Ev"]),
  ("_ZNSt9money_getIcSt19istreambuf_iteratorIcSt11char_traitsIcEEE", [
    "2idE C1Em C2Em D0Ev D1Ev D2Ev"]),
  ("_ZNSt9money_getIwSt19istreambuf_iteratorIwSt11char_traitsIwEEE", [
    "2idE C1Em C2Em D0Ev D1Ev D2Ev"]),
  ("_ZNSt9money_putIcSt19ostreambuf_iteratorIcSt11char_traitsIcEEE", [
    "2idE C1Em C2Em D0Ev D1Ev D2Ev"]),
  ("_ZNSt9money_putIwSt19ostreambuf_iteratorIwSt11char_traitsIwEEE", [
    "2idE C1Em C2Em D0Ev D1Ev D2Ev"])]

end GuestBridge.Posix.SystemLibrary
