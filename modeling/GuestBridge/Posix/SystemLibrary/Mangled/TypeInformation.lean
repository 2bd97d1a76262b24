import GuestBridge.Posix.SystemLibrary.NameFamily

/-!
Mangled symbols of the standard library of C++ for types: descriptions, their names, and tables of
virtual functions.
-/
namespace GuestBridge.Posix.SystemLibrary

/-- Descriptions of types, names of types, and tables of virtual functions. -/
def typeSymbols : List String := families [
  ("_ZTI", ["Dd De Df Di Dn Ds Du a b c d e f g h i j l m n o s t v w x y"]),
  ("_ZTIN", [
    "9__gnu_cxx13stdio_filebufIcSt11char_traitsIcEEE",
    "9__gnu_cxx13stdio_filebufIwSt11char_traitsIwEEE",
    "9__gnu_cxx18stdio_sync_filebufIcSt11char_traitsIcEEE",
    "9__gnu_cxx18stdio_sync_filebufIwSt11char_traitsIwEEE"]),
  ("_ZTIN10__cxxabiv1", [
    "15__forced_unwindE 16__enum_type_infoE 17__array_type_infoE 17__class_type_infoE",
    "17__pbase_type_infoE 19__foreign_exceptionE 19__pointer_type_infoE 20__function_type_infoE",
    "20__si_class_type_infoE 21__vmi_class_type_infoE 23__fundamental_type_infoE",
    "29__pointer_to_member_type_infoE"]),
  ("_ZTINSt", [
    "10filesystem16filesystem_errorE 10filesystem7__cxx1116filesystem_errorE",
    "13__future_base11_State_baseE 13__future_base12_Result_baseE",
    "13__future_base19_Async_state_commonE 3_V214error_categoryE 3pmr15memory_resourceE",
    "3pmr25monotonic_buffer_resourceE 3pmr26synchronized_pool_resourceE",
    "3pmr28unsynchronized_pool_resourceE 6locale5facetE 6thread6_StateE",
    "8ios_base7failureB5cxx11E 8ios_base7failureE"]),
  ("_ZTINSt7__cxx11", [
    "10moneypunctIcLb0EEE 10moneypunctIcLb1EEE 10moneypunctIwLb0EEE 10moneypunctIwLb1EEE",
    "14collate_bynameIcEE 14collate_bynameIwEE 15basic_stringbufIcSt11char_traitsIcESaIcEEE",
    "15basic_stringbufIwSt11char_traitsIwESaIwEEE 15messages_bynameIcEE 15messages_bynameIwEE",
    "15numpunct_bynameIcEE 15numpunct_bynameIwEE",
    "15time_get_bynameIcSt19istreambuf_iteratorIcSt11char_traitsIcEEEE",
    "15time_get_bynameIwSt19istreambuf_iteratorIwSt11char_traitsIwEEEE",
    "17moneypunct_bynameIcLb0EEE 17moneypunct_bynameIcLb1EEE 17moneypunct_bynameIwLb0EEE",
    "17moneypunct_bynameIwLb1EEE 18basic_stringstreamIcSt11char_traitsIcESaIcEEE",
    "18basic_stringstreamIwSt11char_traitsIwESaIwEEE",
    "19basic_istringstreamIcSt11char_traitsIcESaIcEEE",
    "19basic_istringstreamIwSt11char_traitsIwESaIwEEE",
    "19basic_ostringstreamIcSt11char_traitsIcESaIcEEE",
    "19basic_ostringstreamIwSt11char_traitsIwESaIwEEE 7collateIcEE 7collateIwEE 8messagesIcEE",
    "8messagesIwEE 8numpunctIcEE 8numpunctIwEE",
    "8time_getIcSt19istreambuf_iteratorIcSt11char_traitsIcEEEE",
    "8time_getIwSt19istreambuf_iteratorIwSt11char_traitsIwEEEE",
    "9money_getIcSt19istreambuf_iteratorIcSt11char_traitsIcEEEE",
    "9money_getIwSt19istreambuf_iteratorIwSt11char_traitsIwEEEE",
    "9money_putIcSt19ostreambuf_iteratorIcSt11char_traitsIcEEEE",
    "9money_putIwSt19ostreambuf_iteratorIwSt11char_traitsIwEEEE"]),
  ("_ZTIP", [
    "Dd De Df Di Dn Ds Du KDd KDe KDf KDi KDn KDs KDu Ka Kb Kc Kd Ke Kf Kg Kh Ki Kj Kl Km Kn Ko",
    "Ks Kt Kv Kw Kx Ky a b c d e f g h i j l m n o s t v w x y"]),
  ("_ZTIS", ["d i o"]),
  ("_ZTISt", [
    "20__codecvt_utf16_baseIDiE 20__codecvt_utf16_baseIDsE 20__codecvt_utf16_baseIwE",
    "20bad_array_new_length 21__ctype_abstract_baseIcE 21__ctype_abstract_baseIwE",
    "23__codecvt_abstract_baseIcc11__mbstate_tE 23__codecvt_abstract_baseIwc11__mbstate_tE",
    "25__codecvt_utf8_utf16_baseIDiE 25__codecvt_utf8_utf16_baseIDsE",
    "25__codecvt_utf8_utf16_baseIwE 5ctypeIcE 5ctypeIwE 7codecvtIDiDu11__mbstate_tE",
    "7codecvtIDic11__mbstate_tE 7codecvtIDsDu11__mbstate_tE 7codecvtIDsc11__mbstate_tE",
    "7codecvtIcc11__mbstate_tE 7codecvtIwc11__mbstate_tE 7collateIcE 7collateIwE",
    "7num_getIcSt19istreambuf_iteratorIcSt11char_traitsIcEEE",
    "7num_getIwSt19istreambuf_iteratorIwSt11char_traitsIwEEE",
    "7num_putIcSt19ostreambuf_iteratorIcSt11char_traitsIcEEE",
    "7num_putIwSt19ostreambuf_iteratorIwSt11char_traitsIwEEE 8bad_cast 8ios_base 8messagesIcE",
    "8messagesIwE 8numpunctIcE 8numpunctIwE",
    "8time_getIcSt19istreambuf_iteratorIcSt11char_traitsIcEEE",
    "8time_getIwSt19istreambuf_iteratorIwSt11char_traitsIwEEE",
    "8time_putIcSt19ostreambuf_iteratorIcSt11char_traitsIcEEE",
    "8time_putIwSt19ostreambuf_iteratorIwSt11char_traitsIwEEE 9bad_alloc",
    "9basic_iosIcSt11char_traitsIcEE 9basic_iosIwSt11char_traitsIwEE 9exception",
    "9money_getIcSt19istreambuf_iteratorIcSt11char_traitsIcEEE",
    "9money_getIwSt19istreambuf_iteratorIwSt11char_traitsIwEEE",
    "9money_putIcSt19ostreambuf_iteratorIcSt11char_traitsIcEEE",
    "9money_putIwSt19ostreambuf_iteratorIwSt11char_traitsIwEEE 9strstream 9time_base 9type_info"]),
  ("_ZTISt1", [
    "0bad_typeid 0ctype_base 0istrstream 0lock_error 0money_base 0moneypunctIcLb0EE",
    "0moneypunctIcLb1EE 0moneypunctIwLb0EE 0moneypunctIwLb1EE 0ostrstream 1__timepunctIcE",
    "1__timepunctIwE 1logic_error 1range_error 1regex_error 2bad_weak_ptr 2codecvt_base",
    "2ctype_bynameIcE 2ctype_bynameIwE 2domain_error 2future_error 2length_error 2out_of_range",
    "2strstreambuf 2system_error 3bad_exception 3basic_filebufIcSt11char_traitsIcEE",
    "3basic_filebufIwSt11char_traitsIwEE 3basic_fstreamIcSt11char_traitsIcEE",
    "3basic_fstreamIwSt11char_traitsIwEE 3basic_istreamIwSt11char_traitsIwEE",
    "3basic_ostreamIwSt11char_traitsIwEE 3messages_base 3runtime_error",
    "4basic_ifstreamIcSt11char_traitsIcEE 4basic_ifstreamIwSt11char_traitsIwEE",
    "4basic_iostreamIwSt11char_traitsIwEE 4basic_ofstreamIcSt11char_traitsIcEE",
    "4basic_ofstreamIwSt11char_traitsIwEE 4codecvt_bynameIcc11__mbstate_tE",
    "4codecvt_bynameIwc11__mbstate_tE 4collate_bynameIcE 4collate_bynameIwE 4error_category",
    "4overflow_error 5basic_streambufIcSt11char_traitsIcEE",
    "5basic_streambufIwSt11char_traitsIwEE 5basic_stringbufIcSt11char_traitsIcESaIcEE",
    "5basic_stringbufIwSt11char_traitsIwESaIwEE 5messages_bynameIcE 5messages_bynameIwE",
    "5numpunct_bynameIcE 5numpunct_bynameIwE",
    "5time_get_bynameIcSt19istreambuf_iteratorIcSt11char_traitsIcEEE",
    "5time_get_bynameIwSt19istreambuf_iteratorIwSt11char_traitsIwEEE",
    "5time_put_bynameIcSt19ostreambuf_iteratorIcSt11char_traitsIcEEE",
    "5time_put_bynameIwSt19ostreambuf_iteratorIwSt11char_traitsIwEEE 5underflow_error",
    "6bad_array_length 6invalid_argument 6nested_exception 7bad_function_call",
    "7moneypunct_bynameIcLb0EE 7moneypunct_bynameIcLb1EE 7moneypunct_bynameIwLb0EE",
    "7moneypunct_bynameIwLb1EE 8basic_stringstreamIcSt11char_traitsIcESaIcEE",
    "8basic_stringstreamIwSt11char_traitsIwESaIwEE 9__codecvt_utf8_baseIDiE",
    "9__codecvt_utf8_baseIDsE 9__codecvt_utf8_baseIwE",
    "9basic_istringstreamIcSt11char_traitsIcESaIcEE",
    "9basic_istringstreamIwSt11char_traitsIwESaIwEE",
    "9basic_ostringstreamIcSt11char_traitsIcESaIcEE",
    "9basic_ostringstreamIwSt11char_traitsIwESaIwEE"]),
  ("_ZTS", ["a b c d e f g h i j l m n o s t v w x y"]),
  ("_ZTSN", [
    "9__gnu_cxx13stdio_filebufIcSt11char_traitsIcEEE",
    "9__gnu_cxx13stdio_filebufIwSt11char_traitsIwEEE",
    "9__gnu_cxx18stdio_sync_filebufIcSt11char_traitsIcEEE",
    "9__gnu_cxx18stdio_sync_filebufIwSt11char_traitsIwEEE"]),
  ("_ZTSN10__cxxabiv1", [
    "16__enum_type_infoE 17__array_type_infoE 17__class_type_infoE 17__pbase_type_infoE",
    "19__pointer_type_infoE 20__function_type_infoE 20__si_class_type_infoE",
    "21__vmi_class_type_infoE 23__fundamental_type_infoE 29__pointer_to_member_type_infoE"]),
  ("_ZTSNSt", [
    "13__future_base19_Async_state_commonE 3pmr15memory_resourceE",
    "3pmr25monotonic_buffer_resourceE 6locale5facetE 6thread6_StateE 8ios_base7failureB5cxx11E",
    "8ios_base7failureE"]),
  ("_ZTSNSt7__cxx11", [
    "10moneypunctIcLb0EEE 10moneypunctIcLb1EEE 10moneypunctIwLb0EEE 10moneypunctIwLb1EEE",
    "14collate_bynameIcEE 14collate_bynameIwEE 15basic_stringbufIcSt11char_traitsIcESaIcEEE",
    "15basic_stringbufIwSt11char_traitsIwESaIwEEE 15messages_bynameIcEE 15messages_bynameIwEE",
    "15numpunct_bynameIcEE 15numpunct_bynameIwEE",
    "15time_get_bynameIcSt19istreambuf_iteratorIcSt11char_traitsIcEEEE",
    "15time_get_bynameIwSt19istreambuf_iteratorIwSt11char_traitsIwEEEE",
    "17moneypunct_bynameIcLb0EEE 17moneypunct_bynameIcLb1EEE 17moneypunct_bynameIwLb0EEE",
    "17moneypunct_bynameIwLb1EEE 18basic_stringstreamIcSt11char_traitsIcESaIcEEE",
    "18basic_stringstreamIwSt11char_traitsIwESaIwEEE",
    "19basic_istringstreamIcSt11char_traitsIcESaIcEEE",
    "19basic_istringstreamIwSt11char_traitsIwESaIwEEE",
    "19basic_ostringstreamIcSt11char_traitsIcESaIcEEE",
    "19basic_ostringstreamIwSt11char_traitsIwESaIwEEE 7collateIcEE 7collateIwEE 8messagesIcEE",
    "8messagesIwEE 8numpunctIcEE 8numpunctIwEE",
    "8time_getIcSt19istreambuf_iteratorIcSt11char_traitsIcEEEE",
    "8time_getIwSt19istreambuf_iteratorIwSt11char_traitsIwEEEE",
    "9money_getIcSt19istreambuf_iteratorIcSt11char_traitsIcEEEE",
    "9money_getIwSt19istreambuf_iteratorIwSt11char_traitsIwEEEE",
    "9money_putIcSt19ostreambuf_iteratorIcSt11char_traitsIcEEEE",
    "9money_putIwSt19ostreambuf_iteratorIwSt11char_traitsIwEEEE"]),
  ("_ZTSP", [
    "Ka Kb Kc Kd Ke Kf Kg Kh Ki Kj Kl Km Kn Ko Ks Kt Kv Kw Kx Ky a b c d e f g h i j l m n o s",
    "t v w x y"]),
  ("_ZTSS", ["d i o"]),
  ("_ZTSSt", [
    "20__codecvt_utf16_baseIDiE 20__codecvt_utf16_baseIDsE 20__codecvt_utf16_baseIwE",
    "20bad_array_new_length 21__ctype_abstract_baseIcE 21__ctype_abstract_baseIwE",
    "23__codecvt_abstract_baseIcc11__mbstate_tE 23__codecvt_abstract_baseIwc11__mbstate_tE",
    "25__codecvt_utf8_utf16_baseIDiE 25__codecvt_utf8_utf16_baseIDsE",
    "25__codecvt_utf8_utf16_baseIwE 5ctypeIcE 5ctypeIwE 7codecvtIDiDu11__mbstate_tE",
    "7codecvtIDic11__mbstate_tE 7codecvtIDsDu11__mbstate_tE 7codecvtIDsc11__mbstate_tE",
    "7codecvtIcc11__mbstate_tE 7codecvtIwc11__mbstate_tE 7collateIcE 7collateIwE",
    "7num_getIcSt19istreambuf_iteratorIcSt11char_traitsIcEEE",
    "7num_getIwSt19istreambuf_iteratorIwSt11char_traitsIwEEE",
    "7num_putIcSt19ostreambuf_iteratorIcSt11char_traitsIcEEE",
    "7num_putIwSt19ostreambuf_iteratorIwSt11char_traitsIwEEE 8bad_cast 8ios_base 8messagesIcE",
    "8messagesIwE 8numpunctIcE 8numpunctIwE",
    "8time_getIcSt19istreambuf_iteratorIcSt11char_traitsIcEEE",
    "8time_getIwSt19istreambuf_iteratorIwSt11char_traitsIwEEE",
    "8time_putIcSt19ostreambuf_iteratorIcSt11char_traitsIcEEE",
    "8time_putIwSt19ostreambuf_iteratorIwSt11char_traitsIwEEE 9bad_alloc",
    "9basic_iosIcSt11char_traitsIcEE 9basic_iosIwSt11char_traitsIwEE 9exception",
    "9money_getIcSt19istreambuf_iteratorIcSt11char_traitsIcEEE",
    "9money_getIwSt19istreambuf_iteratorIwSt11char_traitsIwEEE",
    "9money_putIcSt19ostreambuf_iteratorIcSt11char_traitsIcEEE",
    "9money_putIwSt19ostreambuf_iteratorIwSt11char_traitsIwEEE 9strstream 9time_base 9type_info"]),
  ("_ZTSSt1", [
    "0bad_typeid 0ctype_base 0istrstream 0lock_error 0money_base 0moneypunctIcLb0EE",
    "0moneypunctIcLb1EE 0moneypunctIwLb0EE 0moneypunctIwLb1EE 0ostrstream 1__timepunctIcE",
    "1__timepunctIwE 1logic_error 1range_error 2codecvt_base 2ctype_bynameIcE 2ctype_bynameIwE",
    "2domain_error 2future_error 2length_error 2out_of_range 2strstreambuf 2system_error",
    "3bad_exception 3basic_filebufIcSt11char_traitsIcEE 3basic_filebufIwSt11char_traitsIwEE",
    "3basic_fstreamIcSt11char_traitsIcEE 3basic_fstreamIwSt11char_traitsIwEE",
    "3basic_istreamIwSt11char_traitsIwEE 3basic_ostreamIwSt11char_traitsIwEE 3messages_base",
    "3runtime_error 4basic_ifstreamIcSt11char_traitsIcEE 4basic_ifstreamIwSt11char_traitsIwEE",
    "4basic_iostreamIwSt11char_traitsIwEE 4basic_ofstreamIcSt11char_traitsIcEE",
    "4basic_ofstreamIwSt11char_traitsIwEE 4codecvt_bynameIcc11__mbstate_tE",
    "4codecvt_bynameIwc11__mbstate_tE 4collate_bynameIcE 4collate_bynameIwE 4error_category",
    "4overflow_error 5basic_streambufIcSt11char_traitsIcEE",
    "5basic_streambufIwSt11char_traitsIwEE 5basic_stringbufIcSt11char_traitsIcESaIcEE",
    "5basic_stringbufIwSt11char_traitsIwESaIwEE 5messages_bynameIcE 5messages_bynameIwE",
    "5numpunct_bynameIcE 5numpunct_bynameIwE",
    "5time_get_bynameIcSt19istreambuf_iteratorIcSt11char_traitsIcEEE",
    "5time_get_bynameIwSt19istreambuf_iteratorIwSt11char_traitsIwEEE",
    "5time_put_bynameIcSt19ostreambuf_iteratorIcSt11char_traitsIcEEE",
    "5time_put_bynameIwSt19ostreambuf_iteratorIwSt11char_traitsIwEEE 5underflow_error",
    "6bad_array_length 6invalid_argument 8basic_stringstreamIcSt11char_traitsIcESaIcEE",
    "8basic_stringstreamIwSt11char_traitsIwESaIwEE 9__codecvt_utf8_baseIDiE",
    "9__codecvt_utf8_baseIDsE 9__codecvt_utf8_baseIwE",
    "9basic_istringstreamIcSt11char_traitsIcESaIcEE",
    "9basic_istringstreamIwSt11char_traitsIwESaIwEE",
    "9basic_ostringstreamIcSt11char_traitsIcESaIcEE",
    "9basic_ostringstreamIwSt11char_traitsIwESaIwEE"]),
  ("_ZTSSt17moneypunct_bynameI", ["cLb0EE cLb1EE wLb0EE wLb1EE"]),
  ("_ZTT", [
    "Sd Si So St10istrstream St10ostrstream St13basic_fstreamIcSt11char_traitsIcEE",
    "St13basic_fstreamIwSt11char_traitsIwEE St13basic_istreamIwSt11char_traitsIwEE",
    "St13basic_ostreamIwSt11char_traitsIwEE St14basic_ifstreamIcSt11char_traitsIcEE",
    "St14basic_ifstreamIwSt11char_traitsIwEE St14basic_iostreamIwSt11char_traitsIwEE",
    "St14basic_ofstreamIcSt11char_traitsIcEE St14basic_ofstreamIwSt11char_traitsIwEE",
    "St18basic_stringstreamIcSt11char_traitsIcESaIcEE",
    "St18basic_stringstreamIwSt11char_traitsIwESaIwEE",
    "St19basic_istringstreamIcSt11char_traitsIcESaIcEE",
    "St19basic_istringstreamIwSt11char_traitsIwESaIwEE",
    "St19basic_ostringstreamIcSt11char_traitsIcESaIcEE",
    "St19basic_ostringstreamIwSt11char_traitsIwESaIwEE St9strstream"]),
  ("_ZTTNSt7__cxx111", [
    "8basic_stringstreamIcSt11char_traitsIcESaIcEEE",
    "8basic_stringstreamIwSt11char_traitsIwESaIwEEE",
    "9basic_istringstreamIcSt11char_traitsIcESaIcEEE",
    "9basic_istringstreamIwSt11char_traitsIwESaIwEEE",
    "9basic_ostringstreamIcSt11char_traitsIcESaIcEEE",
    "9basic_ostringstreamIwSt11char_traitsIwESaIwEEE"]),
  ("_ZTVN", [
    "9__gnu_cxx18stdio_sync_filebufIcSt11char_traitsIcEEE",
    "9__gnu_cxx18stdio_sync_filebufIwSt11char_traitsIwEEE"]),
  ("_ZTVN10__cxxabiv1", [
    "16__enum_type_infoE 17__array_type_infoE 17__class_type_infoE 17__pbase_type_infoE",
    "19__pointer_type_infoE 20__function_type_infoE 20__si_class_type_infoE",
    "21__vmi_class_type_infoE 23__fundamental_type_infoE 29__pointer_to_member_type_infoE"]),
  ("_ZTVNSt", [
    "10filesystem16filesystem_errorE 10filesystem7__cxx1116filesystem_errorE",
    "13__future_base11_State_baseE 13__future_base12_Result_baseE",
    "13__future_base19_Async_state_commonE 3_V214error_categoryE 3pmr15memory_resourceE",
    "3pmr25monotonic_buffer_resourceE 6locale5facetE 6thread6_StateE 8ios_base7failureB5cxx11E",
    "8ios_base7failureE"]),
  ("_ZTVNSt7__cxx11", [
    "10moneypunctIcLb0EEE 10moneypunctIcLb1EEE 10moneypunctIwLb0EEE 10moneypunctIwLb1EEE",
    "14collate_bynameIcEE 14collate_bynameIwEE 15basic_stringbufIcSt11char_traitsIcESaIcEEE",
    "15basic_stringbufIwSt11char_traitsIwESaIwEEE 15messages_bynameIcEE 15messages_bynameIwEE",
    "15numpunct_bynameIcEE 15numpunct_bynameIwEE",
    "15time_get_bynameIcSt19istreambuf_iteratorIcSt11char_traitsIcEEEE",
    "15time_get_bynameIwSt19istreambuf_iteratorIwSt11char_traitsIwEEEE",
    "17moneypunct_bynameIcLb0EEE 17moneypunct_bynameIcLb1EEE 17moneypunct_bynameIwLb0EEE",
    "17moneypunct_bynameIwLb1EEE 18basic_stringstreamIcSt11char_traitsIcESaIcEEE",
    "18basic_stringstreamIwSt11char_traitsIwESaIwEEE",
    "19basic_istringstreamIcSt11char_traitsIcESaIcEEE",
    "19basic_istringstreamIwSt11char_traitsIwESaIwEEE",
    "19basic_ostringstreamIcSt11char_traitsIcESaIcEEE",
    "19basic_ostringstreamIwSt11char_traitsIwESaIwEEE 7collateIcEE 7collateIwEE 8messagesIcEE",
    "8messagesIwEE 8numpunctIcEE 8numpunctIwEE",
    "8time_getIcSt19istreambuf_iteratorIcSt11char_traitsIcEEEE",
    "8time_getIwSt19istreambuf_iteratorIwSt11char_traitsIwEEEE",
    "9money_getIcSt19istreambuf_iteratorIcSt11char_traitsIcEEEE",
    "9money_getIwSt19istreambuf_iteratorIwSt11char_traitsIwEEEE",
    "9money_putIcSt19ostreambuf_iteratorIcSt11char_traitsIcEEEE",
    "9money_putIwSt19ostreambuf_iteratorIwSt11char_traitsIwEEEE"]),
  ("_ZTVS", ["d i o"]),
  ("_ZTVSt", [
    "20__codecvt_utf16_baseIDiE 20__codecvt_utf16_baseIDsE 20__codecvt_utf16_baseIwE",
    "20bad_array_new_length 21__ctype_abstract_baseIcE 21__ctype_abstract_baseIwE",
    "23__codecvt_abstract_baseIcc11__mbstate_tE 23__codecvt_abstract_baseIwc11__mbstate_tE",
    "25__codecvt_utf8_utf16_baseIDiE 25__codecvt_utf8_utf16_baseIDsE",
    "25__codecvt_utf8_utf16_baseIwE 5ctypeIcE 5ctypeIwE 7codecvtIDiDu11__mbstate_tE",
    "7codecvtIDic11__mbstate_tE 7codecvtIDsDu11__mbstate_tE 7codecvtIDsc11__mbstate_tE",
    "7codecvtIcc11__mbstate_tE 7codecvtIwc11__mbstate_tE 7collateIcE 7collateIwE",
    "7num_getIcSt19istreambuf_iteratorIcSt11char_traitsIcEEE",
    "7num_getIwSt19istreambuf_iteratorIwSt11char_traitsIwEEE",
    "7num_putIcSt19ostreambuf_iteratorIcSt11char_traitsIcEEE",
    "7num_putIwSt19ostreambuf_iteratorIwSt11char_traitsIwEEE 8bad_cast 8ios_base 8messagesIcE",
    "8messagesIwE 8numpunctIcE 8numpunctIwE",
    "8time_getIcSt19istreambuf_iteratorIcSt11char_traitsIcEEE",
    "8time_getIwSt19istreambuf_iteratorIwSt11char_traitsIwEEE",
    "8time_putIcSt19ostreambuf_iteratorIcSt11char_traitsIcEEE",
    "8time_putIwSt19ostreambuf_iteratorIwSt11char_traitsIwEEE 9bad_alloc",
    "9basic_iosIcSt11char_traitsIcEE 9basic_iosIwSt11char_traitsIwEE 9exception",
    "9money_getIcSt19istreambuf_iteratorIcSt11char_traitsIcEEE",
    "9money_getIwSt19istreambuf_iteratorIwSt11char_traitsIwEEE",
    "9money_putIcSt19ostreambuf_iteratorIcSt11char_traitsIcEEE",
    "9money_putIwSt19ostreambuf_iteratorIwSt11char_traitsIwEEE 9strstream 9type_info"]),
  ("_ZTVSt1", [
    "0bad_typeid 0istrstream 0lock_error 0moneypunctIcLb0EE 0moneypunctIcLb1EE",
    "0moneypunctIwLb0EE 0moneypunctIwLb1EE 0ostrstream 1__timepunctIcE 1__timepunctIwE",
    "1logic_error 1range_error 1regex_error 2bad_weak_ptr 2ctype_bynameIcE 2ctype_bynameIwE",
    "2domain_error 2future_error 2length_error 2out_of_range 2strstreambuf 2system_error",
    "3bad_exception 3basic_filebufIcSt11char_traitsIcEE 3basic_filebufIwSt11char_traitsIwEE",
    "3basic_fstreamIcSt11char_traitsIcEE 3basic_fstreamIwSt11char_traitsIwEE",
    "3basic_istreamIwSt11char_traitsIwEE 3basic_ostreamIwSt11char_traitsIwEE 3runtime_error",
    "4basic_ifstreamIcSt11char_traitsIcEE 4basic_ifstreamIwSt11char_traitsIwEE",
    "4basic_iostreamIwSt11char_traitsIwEE 4basic_ofstreamIcSt11char_traitsIcEE",
    "4basic_ofstreamIwSt11char_traitsIwEE 4codecvt_bynameIcc11__mbstate_tE",
    "4codecvt_bynameIwc11__mbstate_tE 4collate_bynameIcE 4collate_bynameIwE 4error_category",
    "4overflow_error 5basic_streambufIcSt11char_traitsIcEE",
    "5basic_streambufIwSt11char_traitsIwEE 5basic_stringbufIcSt11char_traitsIcESaIcEE",
    "5basic_stringbufIwSt11char_traitsIwESaIwEE 5messages_bynameIcE 5messages_bynameIwE",
    "5numpunct_bynameIcE 5numpunct_bynameIwE",
    "5time_get_bynameIcSt19istreambuf_iteratorIcSt11char_traitsIcEEE",
    "5time_get_bynameIwSt19istreambuf_iteratorIwSt11char_traitsIwEEE",
    "5time_put_bynameIcSt19ostreambuf_iteratorIcSt11char_traitsIcEEE",
    "5time_put_bynameIwSt19ostreambuf_iteratorIwSt11char_traitsIwEEE 5underflow_error",
    "6bad_array_length 6invalid_argument 6nested_exception 7bad_function_call",
    "7moneypunct_bynameIcLb0EE 7moneypunct_bynameIcLb1EE 7moneypunct_bynameIwLb0EE",
    "7moneypunct_bynameIwLb1EE 8basic_stringstreamIcSt11char_traitsIcESaIcEE",
    "8basic_stringstreamIwSt11char_traitsIwESaIwEE 9__codecvt_utf8_baseIDiE",
    "9__codecvt_utf8_baseIDsE 9__codecvt_utf8_baseIwE",
    "9basic_istringstreamIcSt11char_traitsIcESaIcEE",
    "9basic_istringstreamIwSt11char_traitsIwESaIwEE",
    "9basic_ostringstreamIcSt11char_traitsIcESaIcEE",
    "9basic_ostringstreamIwSt11char_traitsIwESaIwEE"]),
  ("_ZThn16_NS", ["dD0Ev dD1Ev"]),
  ("_ZThn16_NSt", [
    "13basic_fstreamIcSt11char_traitsIcEED0Ev 13basic_fstreamIcSt11char_traitsIcEED1Ev",
    "13basic_fstreamIwSt11char_traitsIwEED0Ev 13basic_fstreamIwSt11char_traitsIwEED1Ev",
    "14basic_iostreamIwSt11char_traitsIwEED0Ev 14basic_iostreamIwSt11char_traitsIwEED1Ev",
    "18basic_stringstreamIcSt11char_traitsIcESaIcEED0Ev",
    "18basic_stringstreamIcSt11char_traitsIcESaIcEED1Ev",
    "18basic_stringstreamIwSt11char_traitsIwESaIwEED0Ev",
    "18basic_stringstreamIwSt11char_traitsIwESaIwEED1Ev 9strstreamD0Ev 9strstreamD1Ev"]),
  ("_ZThn16_NSt7__cxx1118basic_stringstreamI", [
    "cSt11char_traitsIcESaIcEED0Ev cSt11char_traitsIcESaIcEED1Ev wSt11char_traitsIwESaIwEED0Ev",
    "wSt11char_traitsIwESaIwEED1Ev"]),
  ("_ZTv0_n24_NS", ["dD0Ev dD1Ev iD0Ev iD1Ev oD0Ev oD1Ev"]),
  ("_ZTv0_n24_NSt", ["9strstreamD0Ev 9strstreamD1Ev"]),
  ("_ZTv0_n24_NSt1", ["0istrstreamD0Ev 0istrstreamD1Ev 0ostrstreamD0Ev 0ostrstreamD1Ev"]),
  ("_ZTv0_n24_NSt13basic_", [
    "fstreamIcSt11char_traitsIcEED0Ev fstreamIcSt11char_traitsIcEED1Ev",
    "fstreamIwSt11char_traitsIwEED0Ev fstreamIwSt11char_traitsIwEED1Ev",
    "istreamIwSt11char_traitsIwEED0Ev istreamIwSt11char_traitsIwEED1Ev",
    "ostreamIwSt11char_traitsIwEED0Ev ostreamIwSt11char_traitsIwEED1Ev"]),
  ("_ZTv0_n24_NSt14basic_", [
    "ifstreamIcSt11char_traitsIcEED0Ev ifstreamIcSt11char_traitsIcEED1Ev",
    "ifstreamIwSt11char_traitsIwEED0Ev ifstreamIwSt11char_traitsIwEED1Ev",
    "iostreamIwSt11char_traitsIwEED0Ev iostreamIwSt11char_traitsIwEED1Ev",
    "ofstreamIcSt11char_traitsIcEED0Ev ofstreamIcSt11char_traitsIcEED1Ev",
    "ofstreamIwSt11char_traitsIwEED0Ev ofstreamIwSt11char_traitsIwEED1Ev"]),
  ("_ZTv0_n24_NSt18basic_stringstreamI", [
    "cSt11char_traitsIcESaIcEED0Ev cSt11char_traitsIcESaIcEED1Ev wSt11char_traitsIwESaIwEED0Ev",
    "wSt11char_traitsIwESaIwEED1Ev"]),
  ("_ZTv0_n24_NSt19basic_", [
    "istringstreamIcSt11char_traitsIcESaIcEED0Ev istringstreamIcSt11char_traitsIcESaIcEED1Ev",
    "istringstreamIwSt11char_traitsIwESaIwEED0Ev istringstreamIwSt11char_traitsIwESaIwEED1Ev",
    "ostringstreamIcSt11char_traitsIcESaIcEED0Ev ostringstreamIcSt11char_traitsIcESaIcEED1Ev",
    "ostringstreamIwSt11char_traitsIwESaIwEED0Ev ostringstreamIwSt11char_traitsIwESaIwEED1Ev"]),
  ("_ZTv0_n24_NSt7__cxx111", [
    "9basic_istringstreamIcSt11char_traitsIcESaIcEED0Ev",
    "9basic_istringstreamIcSt11char_traitsIcESaIcEED1Ev",
    "9basic_istringstreamIwSt11char_traitsIwESaIwEED0Ev",
    "9basic_istringstreamIwSt11char_traitsIwESaIwEED1Ev",
    "9basic_ostringstreamIcSt11char_traitsIcESaIcEED0Ev",
    "9basic_ostringstreamIcSt11char_traitsIcESaIcEED1Ev",
    "9basic_ostringstreamIwSt11char_traitsIwESaIwEED0Ev",
    "9basic_ostringstreamIwSt11char_traitsIwESaIwEED1Ev"]),
  ("_ZTv0_n24_NSt7__cxx1118basic_stringstreamI", [
    "cSt11char_traitsIcESaIcEED0Ev cSt11char_traitsIcESaIcEED1Ev wSt11char_traitsIwESaIwEED0Ev",
    "wSt11char_traitsIwESaIwEED1Ev"])]

end GuestBridge.Posix.SystemLibrary
