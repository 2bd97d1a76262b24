import GuestBridge.Posix.SystemLibrary.NameFamily

/-!
Mangled symbols of the standard library of C++ for functions and objects that are no members, and
for what belongs to them.
-/
namespace GuestBridge.Posix.SystemLibrary

/-- Allocation, operators, algorithms and guards. -/
def functionSymbols : List String := families [
  ("_Z", [
    "daPv daPvRKSt9nothrow_t daPvSt11align_val_t daPvSt11align_val_tRKSt9nothrow_t daPvm",
    "daPvmSt11align_val_t dlPv dlPvRKSt9nothrow_t dlPvSt11align_val_t",
    "dlPvSt11align_val_tRKSt9nothrow_t dlPvm dlPvmSt11align_val_t nam namRKSt9nothrow_t",
    "namSt11align_val_t namSt11align_val_tRKSt9nothrow_t nwm nwmRKSt9nothrow_t",
    "nwmSt11align_val_t nwmSt11align_val_tRKSt9nothrow_t"]),
  ("_ZGTtN", [
    "KSt11logic_error4whatEv KSt13bad_exception4whatEv KSt13bad_exceptionD1Ev",
    "KSt13runtime_error4whatEv KSt9exception4whatEv KSt9exceptionD1Ev"]),
  ("_ZGTtNSt11logic_error", [
    "C1EPKc C1ERKNSt7__cxx1112basic_stringIcSt11char_traitsIcESaIcEEE C2EPKc",
    "C2ERKNSt7__cxx1112basic_stringIcSt11char_traitsIcESaIcEEE D0Ev D1Ev D2Ev"]),
  ("_ZGTtNSt11range_error", [
    "C1EPKc C1ERKNSt7__cxx1112basic_stringIcSt11char_traitsIcESaIcEEE C2EPKc",
    "C2ERKNSt7__cxx1112basic_stringIcSt11char_traitsIcESaIcEEE D0Ev D1Ev D2Ev"]),
  ("_ZGTtNSt12domain_error", [
    "C1EPKc C1ERKNSt7__cxx1112basic_stringIcSt11char_traitsIcESaIcEEE C2EPKc",
    "C2ERKNSt7__cxx1112basic_stringIcSt11char_traitsIcESaIcEEE D0Ev D1Ev D2Ev"]),
  ("_ZGTtNSt12length_error", [
    "C1EPKc C1ERKNSt7__cxx1112basic_stringIcSt11char_traitsIcESaIcEEE C2EPKc",
    "C2ERKNSt7__cxx1112basic_stringIcSt11char_traitsIcESaIcEEE D0Ev D1Ev D2Ev"]),
  ("_ZGTtNSt12out_of_range", [
    "C1EPKc C1ERKNSt7__cxx1112basic_stringIcSt11char_traitsIcESaIcEEE C2EPKc",
    "C2ERKNSt7__cxx1112basic_stringIcSt11char_traitsIcESaIcEEE D0Ev D1Ev D2Ev"]),
  ("_ZGTtNSt13runtime_error", [
    "C1EPKc C1ERKNSt7__cxx1112basic_stringIcSt11char_traitsIcESaIcEEE C2EPKc",
    "C2ERKNSt7__cxx1112basic_stringIcSt11char_traitsIcESaIcEEE D0Ev D1Ev D2Ev"]),
  ("_ZGTtNSt14overflow_error", [
    "C1EPKc C1ERKNSt7__cxx1112basic_stringIcSt11char_traitsIcESaIcEEE C2EPKc",
    "C2ERKNSt7__cxx1112basic_stringIcSt11char_traitsIcESaIcEEE D0Ev D1Ev D2Ev"]),
  ("_ZGTtNSt15underflow_error", [
    "C1EPKc C1ERKNSt7__cxx1112basic_stringIcSt11char_traitsIcESaIcEEE C2EPKc",
    "C2ERKNSt7__cxx1112basic_stringIcSt11char_traitsIcESaIcEEE D0Ev D1Ev D2Ev"]),
  ("_ZGTtNSt16invalid_argument", [
    "C1EPKc C1ERKNSt7__cxx1112basic_stringIcSt11char_traitsIcESaIcEEE C2EPKc",
    "C2ERKNSt7__cxx1112basic_stringIcSt11char_traitsIcESaIcEEE D0Ev D1Ev D2Ev"]),
  ("_ZGVNSt", [
    "10moneypunctIcLb0EE2idE 10moneypunctIcLb1EE2idE 10moneypunctIwLb0EE2idE",
    "10moneypunctIwLb1EE2idE 11__timepunctIcE2idE 11__timepunctIwE2idE 8messagesIcE2idE",
    "8messagesIwE2idE 8numpunctIcE2idE 8numpunctIwE2idE",
    "8time_getIcSt19istreambuf_iteratorIcSt11char_traitsIcEEE2idE",
    "8time_getIwSt19istreambuf_iteratorIwSt11char_traitsIwEEE2idE",
    "8time_putIcSt19ostreambuf_iteratorIcSt11char_traitsIcEEE2idE",
    "8time_putIwSt19ostreambuf_iteratorIwSt11char_traitsIwEEE2idE",
    "9money_getIcSt19istreambuf_iteratorIcSt11char_traitsIcEEE2idE",
    "9money_getIwSt19istreambuf_iteratorIwSt11char_traitsIwEEE2idE",
    "9money_putIcSt19ostreambuf_iteratorIcSt11char_traitsIcEEE2idE",
    "9money_putIwSt19ostreambuf_iteratorIwSt11char_traitsIwEEE2idE"]),
  ("_ZGVNSt7", [
    "collateIcE2idE collateIwE2idE num_getIcSt19istreambuf_iteratorIcSt11char_traitsIcEEE2idE",
    "num_getIwSt19istreambuf_iteratorIwSt11char_traitsIwEEE2idE",
    "num_putIcSt19ostreambuf_iteratorIcSt11char_traitsIcEEE2idE",
    "num_putIwSt19ostreambuf_iteratorIwSt11char_traitsIwEEE2idE"]),
  ("_ZGVNSt7__cxx11", [
    "10moneypunctIcLb0EE2idE 10moneypunctIcLb1EE2idE 10moneypunctIwLb0EE2idE",
    "10moneypunctIwLb1EE2idE 7collateIcE2idE 7collateIwE2idE 8messagesIcE2idE 8messagesIwE2idE",
    "8numpunctIcE2idE 8numpunctIwE2idE",
    "8time_getIcSt19istreambuf_iteratorIcSt11char_traitsIcEEE2idE",
    "8time_getIwSt19istreambuf_iteratorIwSt11char_traitsIwEEE2idE",
    "9money_getIcSt19istreambuf_iteratorIcSt11char_traitsIcEEE2idE",
    "9money_getIwSt19istreambuf_iteratorIwSt11char_traitsIwEEE2idE",
    "9money_putIcSt19ostreambuf_iteratorIcSt11char_traitsIcEEE2idE",
    "9money_putIwSt19ostreambuf_iteratorIwSt11char_traitsIwEEE2idE"]),
  ("_ZSt", [
    "20_Rb_tree_black_countPKSt18_Rb_tree_node_baseS1_",
    "20_Rb_tree_rotate_leftPSt18_Rb_tree_node_baseRS0_ 20__throw_domain_errorPKc",
    "20__throw_future_errori 20__throw_length_errorPKc 20__throw_out_of_rangePKc",
    "20__throw_system_errori 21_Rb_tree_rotate_rightPSt18_Rb_tree_node_baseRS0_",
    "21__copy_streambufs_eofIcSt11char_traitsIcEElPSt15basic_streambufIT_T0_ES6_Rb",
    "21__copy_streambufs_eofIwSt11char_traitsIwEElPSt15basic_streambufIT_T0_ES6_Rb",
    "21__glibcxx_assert_failPKciS0_S0_ 21__throw_bad_exceptionv 21__throw_runtime_errorPKc",
    "22__throw_overflow_errorPKc 23__throw_underflow_errorPKc 24__throw_invalid_argumentPKc",
    "24__throw_out_of_range_fmtPKcz 25__throw_bad_function_callv",
    "25notify_all_at_thread_exitRSt18condition_variableSt11unique_lockISt5mutexE",
    "28_Rb_tree_rebalance_for_erasePSt18_Rb_tree_node_baseRS_ 28__throw_bad_array_new_lengthv",
    "29_Rb_tree_insert_and_rebalancebPSt18_Rb_tree_node_baseS0_RS_",
    "2wsIcSt11char_traitsIcEERSt13basic_istreamIT_T0_ES6_",
    "2wsIwSt11char_traitsIwEERSt13basic_istreamIT_T0_ES6_ 3cin 4cerr 4clog 4cout",
    "4endlIcSt11char_traitsIcEERSt13basic_ostreamIT_T0_ES6_",
    "4endlIwSt11char_traitsIwEERSt13basic_ostreamIT_T0_ES6_",
    "4endsIcSt11char_traitsIcEERSt13basic_ostreamIT_T0_ES6_",
    "4endsIwSt11char_traitsIwEERSt13basic_ostreamIT_T0_ES6_ 4wcin",
    "5flushIcSt11char_traitsIcEERSt13basic_ostreamIT_T0_ES6_",
    "5flushIwSt11char_traitsIwEERSt13basic_ostreamIT_T0_ES6_ 5wcerr 5wclog 5wcout"]),
  ("_ZSt1", [
    "0adopt_lock 0defer_lock 0from_charsPKcS0_RdSt12chars_format",
    "0from_charsPKcS0_ReSt12chars_format 0from_charsPKcS0_RfSt12chars_format 0unexpectedv",
    "1_Hash_bytesPKvmm 1__once_call 1try_to_lock 3get_terminatev 3set_terminatePFvvE",
    "4__convert_to_vIdEvPKcRT_RSt12_Ios_IostateRKP15__locale_struct",
    "4__convert_to_vIeEvPKcRT_RSt12_Ios_IostateRKP15__locale_struct",
    "4__convert_to_vIfEvPKcRT_RSt12_Ios_IostateRKP15__locale_struct 4get_unexpectedv",
    "4set_unexpectedPFvvE 5_Fnv_hash_bytesPKvmm 5__once_callable 5future_category",
    "5future_categoryv 5get_new_handlerv 5set_new_handlerPFvvE 5system_categoryv",
    "6__ostream_insertIcSt11char_traitsIcEERSt13basic_ostreamIT_T0_ES6_PKS3_l",
    "6__ostream_insertIwSt11char_traitsIwEERSt13basic_ostreamIT_T0_ES6_PKS3_l",
    "6__throw_bad_castv 6generic_categoryv",
    "7__copy_streambufsIcSt11char_traitsIcEElPSt15basic_streambufIT_T0_ES6_",
    "7__copy_streambufsIwSt11char_traitsIwEElPSt15basic_streambufIT_T0_ES6_",
    "7__istream_extractIwSt11char_traitsIwEEvRSt13basic_istreamIT_T0_EPS3_l",
    "7__istream_extractRSiPcl 7__throw_bad_allocv",
    "7__verify_groupingPKcmRKNSt7__cxx1112basic_stringIcSt11char_traitsIcESaIcEEE",
    "7__verify_groupingPKcmRKSs 7current_exceptionv 7iostream_categoryv",
    "7rethrow_exceptionNSt15__exception_ptr13exception_ptrE",
    "8_Rb_tree_decrementPKSt18_Rb_tree_node_base 8_Rb_tree_decrementPSt18_Rb_tree_node_base",
    "8_Rb_tree_incrementPKSt18_Rb_tree_node_base 8_Rb_tree_incrementPSt18_Rb_tree_node_base",
    "8__throw_bad_typeidv 8uncaught_exceptionv 9__throw_ios_failurePKc 9__throw_ios_failurePKci",
    "9__throw_logic_errorPKc 9__throw_range_errorPKc",
    "9__throw_regex_errorNSt15regex_constants10error_typeE 9uncaught_exceptionsv"]),
  ("_ZSt7", ["nothrow"]),
  ("_ZSt7getlineIcSt11char_traitsIcESaIcEERSt13basic_istreamIT_T0_ES7_R", [
    "NSt7__cxx1112basic_stringIS4_S5_T1_EE NSt7__cxx1112basic_stringIS4_S5_T1_EES4_",
    "SbIS4_S5_T1_E SbIS4_S5_T1_ES4_"]),
  ("_ZSt7getlineIwSt11char_traitsIwESaIwEERSt13basic_istreamIT_T0_ES7_R", [
    "NSt7__cxx1112basic_stringIS4_S5_T1_EE NSt7__cxx1112basic_stringIS4_S5_T1_EES4_",
    "SbIS4_S5_T1_E SbIS4_S5_T1_ES4_"]),
  ("_ZSt8to_charsPcS_", [
    "d dSt12chars_format dSt12chars_formati e eSt12chars_format eSt12chars_formati f",
    "fSt12chars_format fSt12chars_formati"]),
  ("_ZSt9", ["terminatev"]),
  ("_ZSt9has_facetINSt7__cxx11", [
    "10moneypunctIcLb0EEEEbRKSt6locale 10moneypunctIwLb0EEEEbRKSt6locale",
    "7collateIcEEEbRKSt6locale 7collateIwEEEbRKSt6locale 8messagesIcEEEbRKSt6locale",
    "8messagesIwEEEbRKSt6locale 8numpunctIcEEEbRKSt6locale 8numpunctIwEEEbRKSt6locale",
    "8time_getIcSt19istreambuf_iteratorIcSt11char_traitsIcEEEEEbRKSt6locale",
    "8time_getIwSt19istreambuf_iteratorIwSt11char_traitsIwEEEEEbRKSt6locale",
    "9money_getIcSt19istreambuf_iteratorIcSt11char_traitsIcEEEEEbRKSt6locale",
    "9money_getIwSt19istreambuf_iteratorIwSt11char_traitsIwEEEEEbRKSt6locale",
    "9money_putIcSt19ostreambuf_iteratorIcSt11char_traitsIcEEEEEbRKSt6locale",
    "9money_putIwSt19ostreambuf_iteratorIwSt11char_traitsIwEEEEEbRKSt6locale"]),
  ("_ZSt9has_facetISt", [
    "10moneypunctIcLb0EEEbRKSt6locale 10moneypunctIwLb0EEEbRKSt6locale",
    "11__timepunctIcEEbRKSt6locale 11__timepunctIwEEbRKSt6locale 5ctypeIcEEbRKSt6locale",
    "5ctypeIwEEbRKSt6locale 7codecvtIcc11__mbstate_tEEbRKSt6locale",
    "7codecvtIwc11__mbstate_tEEbRKSt6locale 7collateIcEEbRKSt6locale 7collateIwEEbRKSt6locale",
    "7num_getIcSt19istreambuf_iteratorIcSt11char_traitsIcEEEEbRKSt6locale",
    "7num_getIwSt19istreambuf_iteratorIwSt11char_traitsIwEEEEbRKSt6locale",
    "7num_putIcSt19ostreambuf_iteratorIcSt11char_traitsIcEEEEbRKSt6locale",
    "7num_putIwSt19ostreambuf_iteratorIwSt11char_traitsIwEEEEbRKSt6locale",
    "8messagesIcEEbRKSt6locale 8messagesIwEEbRKSt6locale 8numpunctIcEEbRKSt6locale",
    "8numpunctIwEEbRKSt6locale",
    "8time_getIcSt19istreambuf_iteratorIcSt11char_traitsIcEEEEbRKSt6locale",
    "8time_getIwSt19istreambuf_iteratorIwSt11char_traitsIwEEEEbRKSt6locale",
    "8time_putIcSt19ostreambuf_iteratorIcSt11char_traitsIcEEEEbRKSt6locale",
    "8time_putIwSt19ostreambuf_iteratorIwSt11char_traitsIwEEEEbRKSt6locale",
    "9money_getIcSt19istreambuf_iteratorIcSt11char_traitsIcEEEEbRKSt6locale",
    "9money_getIwSt19istreambuf_iteratorIwSt11char_traitsIwEEEEbRKSt6locale",
    "9money_putIcSt19ostreambuf_iteratorIcSt11char_traitsIcEEEEbRKSt6locale",
    "9money_putIwSt19ostreambuf_iteratorIwSt11char_traitsIwEEEEbRKSt6locale"]),
  ("_ZSt9use_facetINSt7__cxx11", [
    "10moneypunctIcLb0EEEERKT_RKSt6locale 10moneypunctIcLb1EEEERKT_RKSt6locale",
    "10moneypunctIwLb0EEEERKT_RKSt6locale 10moneypunctIwLb1EEEERKT_RKSt6locale",
    "7collateIcEEERKT_RKSt6locale 7collateIwEEERKT_RKSt6locale 8messagesIcEEERKT_RKSt6locale",
    "8messagesIwEEERKT_RKSt6locale 8numpunctIcEEERKT_RKSt6locale 8numpunctIwEEERKT_RKSt6locale",
    "8time_getIcSt19istreambuf_iteratorIcSt11char_traitsIcEEEEERKT_RKSt6locale",
    "8time_getIwSt19istreambuf_iteratorIwSt11char_traitsIwEEEEERKT_RKSt6locale",
    "9money_getIcSt19istreambuf_iteratorIcSt11char_traitsIcEEEEERKT_RKSt6locale",
    "9money_getIwSt19istreambuf_iteratorIwSt11char_traitsIwEEEEERKT_RKSt6locale",
    "9money_putIcSt19ostreambuf_iteratorIcSt11char_traitsIcEEEEERKT_RKSt6locale",
    "9money_putIwSt19ostreambuf_iteratorIwSt11char_traitsIwEEEEERKT_RKSt6locale"]),
  ("_ZSt9use_facetISt", [
    "10moneypunctIcLb0EEERKT_RKSt6locale 10moneypunctIcLb1EEERKT_RKSt6locale",
    "10moneypunctIwLb0EEERKT_RKSt6locale 10moneypunctIwLb1EEERKT_RKSt6locale",
    "11__timepunctIcEERKT_RKSt6locale 11__timepunctIwEERKT_RKSt6locale",
    "5ctypeIcEERKT_RKSt6locale 5ctypeIwEERKT_RKSt6locale",
    "7codecvtIcc11__mbstate_tEERKT_RKSt6locale 7codecvtIwc11__mbstate_tEERKT_RKSt6locale",
    "7collateIcEERKT_RKSt6locale 7collateIwEERKT_RKSt6locale",
    "7num_getIcSt19istreambuf_iteratorIcSt11char_traitsIcEEEERKT_RKSt6locale",
    "7num_getIwSt19istreambuf_iteratorIwSt11char_traitsIwEEEERKT_RKSt6locale",
    "7num_putIcSt19ostreambuf_iteratorIcSt11char_traitsIcEEEERKT_RKSt6locale",
    "7num_putIwSt19ostreambuf_iteratorIwSt11char_traitsIwEEEERKT_RKSt6locale",
    "8messagesIcEERKT_RKSt6locale 8messagesIwEERKT_RKSt6locale 8numpunctIcEERKT_RKSt6locale",
    "8numpunctIwEERKT_RKSt6locale",
    "8time_getIcSt19istreambuf_iteratorIcSt11char_traitsIcEEEERKT_RKSt6locale",
    "8time_getIwSt19istreambuf_iteratorIwSt11char_traitsIwEEEERKT_RKSt6locale",
    "8time_putIcSt19ostreambuf_iteratorIcSt11char_traitsIcEEEERKT_RKSt6locale",
    "8time_putIwSt19ostreambuf_iteratorIwSt11char_traitsIwEEEERKT_RKSt6locale",
    "9money_getIcSt19istreambuf_iteratorIcSt11char_traitsIcEEEERKT_RKSt6locale",
    "9money_getIwSt19istreambuf_iteratorIwSt11char_traitsIwEEEERKT_RKSt6locale",
    "9money_putIcSt19ostreambuf_iteratorIcSt11char_traitsIcEEEERKT_RKSt6locale",
    "9money_putIwSt19ostreambuf_iteratorIwSt11char_traitsIwEEEERKT_RKSt6locale"]),
  ("_ZStlsI", [
    "dcSt11char_traitsIcEERSt13basic_ostreamIT0_T1_ES6_RKSt7complexIT_E",
    "dwSt11char_traitsIwEERSt13basic_ostreamIT0_T1_ES6_RKSt7complexIT_E",
    "ecSt11char_traitsIcEERSt13basic_ostreamIT0_T1_ES6_RKSt7complexIT_E",
    "ewSt11char_traitsIwEERSt13basic_ostreamIT0_T1_ES6_RKSt7complexIT_E",
    "fcSt11char_traitsIcEERSt13basic_ostreamIT0_T1_ES6_RKSt7complexIT_E",
    "fwSt11char_traitsIwEERSt13basic_ostreamIT0_T1_ES6_RKSt7complexIT_E"]),
  ("_ZStlsISt11char_traitsIcEERSt13basic_ostreamIcT_ES5_", ["PKa PKc PKh a c h"]),
  ("_ZStlsIcSt11char_traitsIcE", [
    "SaIcEERSt13basic_ostreamIT_T0_ES7_RKNSt7__cxx1112basic_stringIS4_S5_T1_EE",
    "SaIcEERSt13basic_ostreamIT_T0_ES7_RKSbIS4_S5_T1_E"]),
  ("_ZStlsIcSt11char_traitsIcEERSt13basic_ostreamIT_T0_ES6_St", [
    "12_Setiosflags 13_Setprecision 14_Resetiosflags 5_Setw 8_Setbase 8_SetfillIS3_E"]),
  ("_ZStlsIwSt11char_traitsIwE", [
    "SaIwEERSt13basic_ostreamIT_T0_ES7_RKNSt7__cxx1112basic_stringIS4_S5_T1_EE",
    "SaIwEERSt13basic_ostreamIT_T0_ES7_RKSbIS4_S5_T1_E"]),
  ("_ZStlsIwSt11char_traitsIwEERSt13basic_ostreamIT_T0_ES6_", [
    "PKS3_ PKc S3_ St12_Setiosflags St13_Setprecision St14_Resetiosflags St5_Setw St8_Setbase",
    "St8_SetfillIS3_E c"]),
  ("_ZStplIcSt11char_traitsIcESaIcEE", [
    "SbIT_T0_T1_EPKS3_RKS6_ SbIT_T0_T1_ERKS6_S8_ SbIT_T0_T1_ES3_RKS6_"]),
  ("_ZStplIcSt11char_traitsIcESaIcEENSt7__cxx1112basic_stringIT_T0_T1_EE", [
    "PKS5_RKS8_ RKS8_SA_ S5_RKS8_"]),
  ("_ZStplIwSt11char_traitsIwESaIwEE", [
    "SbIT_T0_T1_EPKS3_RKS6_ SbIT_T0_T1_ERKS6_S8_ SbIT_T0_T1_ES3_RKS6_"]),
  ("_ZStplIwSt11char_traitsIwESaIwEENSt7__cxx1112basic_stringIT_T0_T1_EE", [
    "PKS5_RKS8_ RKS8_SA_ S5_RKS8_"]),
  ("_ZStrsI", [
    "dcSt11char_traitsIcEERSt13basic_istreamIT0_T1_ES6_RSt7complexIT_E",
    "dwSt11char_traitsIwEERSt13basic_istreamIT0_T1_ES6_RSt7complexIT_E",
    "ecSt11char_traitsIcEERSt13basic_istreamIT0_T1_ES6_RSt7complexIT_E",
    "ewSt11char_traitsIwEERSt13basic_istreamIT0_T1_ES6_RSt7complexIT_E",
    "fcSt11char_traitsIcEERSt13basic_istreamIT0_T1_ES6_RSt7complexIT_E",
    "fwSt11char_traitsIwEERSt13basic_istreamIT0_T1_ES6_RSt7complexIT_E"]),
  ("_ZStrsISt11char_traitsIcEERSt13basic_istreamIcT_ES5_", ["Pa Ph Ra Rh"]),
  ("_ZStrsIcSt11char_traitsIcE", [
    "SaIcEERSt13basic_istreamIT_T0_ES7_RNSt7__cxx1112basic_stringIS4_S5_T1_EE",
    "SaIcEERSt13basic_istreamIT_T0_ES7_RSbIS4_S5_T1_E"]),
  ("_ZStrsIcSt11char_traitsIcEERSt13basic_istreamIT_T0_ES6_", [
    "PS3_ RS3_ St12_Setiosflags St13_Setprecision St14_Resetiosflags St5_Setw St8_Setbase",
    "St8_SetfillIS3_E"]),
  ("_ZStrsIwSt11char_traitsIwE", [
    "SaIwEERSt13basic_istreamIT_T0_ES7_RNSt7__cxx1112basic_stringIS4_S5_T1_EE",
    "SaIwEERSt13basic_istreamIT_T0_ES7_RSbIS4_S5_T1_E"]),
  ("_ZStrsIwSt11char_traitsIwEERSt13basic_istreamIT_T0_ES6_", [
    "PS3_ RS3_ St12_Setiosflags St13_Setprecision St14_Resetiosflags St5_Setw St8_Setbase",
    "St8_SetfillIS3_E"])]

end GuestBridge.Posix.SystemLibrary
