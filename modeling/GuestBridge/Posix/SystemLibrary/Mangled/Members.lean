import GuestBridge.Posix.SystemLibrary.NameFamily

/-!
Mangled symbols of the standard library of C++ for members of all other classes.
-/
namespace GuestBridge.Posix.SystemLibrary

/-- Members of classes for numbers, threads, memory, exceptions, files and containers. -/
def memberSymbols : List String := families [
  ("_ZN", [
    "VSt9__atomic011atomic_flag12test_and_setESt12memory_order",
    "VSt9__atomic011atomic_flag5clearESt12memory_order"]),
  ("_ZN1", ["4__gnu_parallel9_Settings3getEv 4__gnu_parallel9_Settings3setERS0_"]),
  ("_ZN10__cxxabiv1", [
    "16__enum_type_infoD0Ev 16__enum_type_infoD1Ev 16__enum_type_infoD2Ev",
    "17__array_type_infoD0Ev 17__array_type_infoD1Ev 17__array_type_infoD2Ev",
    "17__class_type_infoD0Ev 17__class_type_infoD1Ev 17__class_type_infoD2Ev",
    "17__pbase_type_infoD0Ev 17__pbase_type_infoD1Ev 17__pbase_type_infoD2Ev",
    "19__pointer_type_infoD0Ev 19__pointer_type_infoD1Ev 19__pointer_type_infoD2Ev",
    "20__function_type_infoD0Ev 20__function_type_infoD1Ev 20__function_type_infoD2Ev",
    "20__si_class_type_infoD0Ev 20__si_class_type_infoD1Ev 20__si_class_type_infoD2Ev",
    "21__vmi_class_type_infoD0Ev 21__vmi_class_type_infoD1Ev 21__vmi_class_type_infoD2Ev",
    "23__fundamental_type_infoD0Ev 23__fundamental_type_infoD1Ev 23__fundamental_type_infoD2Ev",
    "29__pointer_to_member_type_infoD0Ev 29__pointer_to_member_type_infoD1Ev",
    "29__pointer_to_member_type_infoD2Ev"]),
  ("_ZN10__gnu_norm15_List_node_base", [
    "4hookEPS0_ 4swapERS0_S1_ 6unhookEv 7reverseEv 8transferEPS0_S1_"]),
  ("_ZN11__gnu_debug", [
    "30_Safe_unordered_container_base13_M_detach_allEv",
    "30_Safe_unordered_container_base7_M_swapERS0_"]),
  ("_ZN11__gnu_debug19_Safe_", [
    "iterator_base12_M_get_mutexEv iterator_base16_M_attach_singleEPNS_19_Safe_sequence_baseEb",
    "iterator_base16_M_detach_singleEv iterator_base9_M_attachEPNS_19_Safe_sequence_baseEb",
    "iterator_base9_M_detachEv sequence_base12_M_get_mutexEv sequence_base13_M_detach_allEv",
    "sequence_base18_M_detach_singularEv sequence_base22_M_revalidate_singularEv",
    "sequence_base7_M_swapERS0_"]),
  ("_ZN11__gnu_debug25_Safe_local_iterator_base", [
    "16_M_attach_singleEPNS_19_Safe_sequence_baseEb 9_M_attachEPNS_19_Safe_sequence_baseEb",
    "9_M_detachEv"]),
  ("_ZN9__gnu_cxx", [
    "27__verbose_terminate_handlerEv 9__freeresEv 9free_list6_M_getEm 9free_list8_M_clearEv"]),
  ("_ZN9__gnu_cxx1", [
    "2__atomic_addEPVii 7__pool_alloc_base12_M_get_mutexEv",
    "7__pool_alloc_base16_M_get_free_listEm 7__pool_alloc_base9_M_refillEm"]),
  ("_ZN9__gnu_cxx18", ["__exchange_and_addEPVii"]),
  ("_ZN9__gnu_cxx18stdio_sync_filebufIcSt11char_traitsIcEE", [
    "4fileEv 4syncEv 5uflowEv 6xsgetnEPcl 6xsputnEPKcl",
    "7seekoffElSt12_Ios_SeekdirSt13_Ios_Openmode",
    "7seekposESt4fposI11__mbstate_tESt13_Ios_Openmode 8overflowEi 9pbackfailEi 9underflowEv",
    "C1EOS3_ C1EP8_IO_FILE C2EOS3_ C2EP8_IO_FILE D0Ev D1Ev aSEOS3_"]),
  ("_ZN9__gnu_cxx18stdio_sync_filebufIwSt11char_traitsIwEE", [
    "4fileEv 4syncEv 5uflowEv 6xsgetnEPwl 6xsputnEPKwl",
    "7seekoffElSt12_Ios_SeekdirSt13_Ios_Openmode",
    "7seekposESt4fposI11__mbstate_tESt13_Ios_Openmode 8overflowEj 9pbackfailEj 9underflowEv",
    "C1EOS3_ C1EP8_IO_FILE C2EOS3_ C2EP8_IO_FILE D0Ev D1Ev aSEOS3_"]),
  ("_ZN9__gnu_cxx6__poolILb", [
    "0EE10_M_destroyEv 0EE13_M_initializeEv 0EE16_M_reclaim_blockEPcm 0EE16_M_reserve_blockEmm",
    "1EE10_M_destroyEv 1EE13_M_initializeEPFvPvE 1EE13_M_initializeEv 1EE16_M_get_thread_idEv",
    "1EE16_M_reclaim_blockEPcm 1EE16_M_reserve_blockEmm 1EE21_M_destroy_thread_keyEPv"]),
  ("_ZNK10__cxxabiv1", [
    "17__class_type_info10__do_catchEPKSt9type_infoPPvj",
    "17__class_type_info11__do_upcastEPKS0_PKvRNS0_15__upcast_resultE",
    "17__class_type_info11__do_upcastEPKS0_PPv",
    "17__class_type_info12__do_dyncastElNS0_10__sub_kindEPKS0_PKvS3_S5_RNS0_16__dyncast_resultE",
    "17__class_type_info20__do_find_public_srcElPKvPKS0_S2_",
    "17__pbase_type_info10__do_catchEPKSt9type_infoPPvj",
    "17__pbase_type_info15__pointer_catchEPKS0_PPvj 19__pointer_type_info14__is_pointer_pEv",
    "19__pointer_type_info15__pointer_catchEPKNS_17__pbase_type_infoEPPvj",
    "20__function_type_info15__is_function_pEv",
    "20__si_class_type_info11__do_upcastEPKNS_17__class_type_infoEPKvRNS1_15__upcast_resultE",
    "20__si_class_type_info20__do_find_public_srcElPKvPKNS_17__class_type_infoES2_",
    "21__vmi_class_type_info11__do_upcastEPKNS_17__class_type_infoEPKvRNS1_15__upcast_resultE",
    "21__vmi_class_type_info20__do_find_public_srcElPKvPKNS_17__class_type_infoES2_",
    "29__pointer_to_member_type_info15__pointer_catchEPKNS_17__pbase_type_infoEPPvj"]),
  ("_ZNK10__cxxabiv120__si_class_type_inf", [
    "o12__do_dyncastElNS_17__class_type_info10__sub_kindEPKS1_PKvS4_S6_RNS1_16__dyncast_resultE"]),
  ("_ZNK10__cxxabiv121__vmi_class_type_inf", [
    "o12__do_dyncastElNS_17__class_type_info10__sub_kindEPKS1_PKvS4_S6_RNS1_16__dyncast_resultE"]),
  ("_ZNK11__gnu_debug1", [
    "9_Safe_iterator_base11_M_singularEv 9_Safe_iterator_base14_M_can_compareERKS0_"]),
  ("_ZNK11__gnu_debug16_Error_formatter", [
    "10_M_messageENS_13_Debug_msg_idE 10_Parameter14_M_print_fieldEPKS0_PKc",
    "10_Parameter20_M_print_descriptionEPKS0_ 13_M_print_wordEPKc 15_M_print_stringEPKc",
    "17_M_get_max_lengthEv 8_M_errorEv"]),
  ("_ZNKRSt7__cxx111", [
    "5basic_stringbufIcSt11char_traitsIcESaIcEE3strEv",
    "5basic_stringbufIwSt11char_traitsIwESaIwEE3strEv",
    "8basic_stringstreamIcSt11char_traitsIcESaIcEE3strEv",
    "8basic_stringstreamIwSt11char_traitsIwESaIwEE3strEv",
    "9basic_istringstreamIcSt11char_traitsIcESaIcEE3strEv",
    "9basic_istringstreamIwSt11char_traitsIwESaIwEE3strEv",
    "9basic_ostringstreamIcSt11char_traitsIcESaIcEE3strEv",
    "9basic_ostringstreamIwSt11char_traitsIwESaIwEE3strEv"]),
  ("_ZNKSt", [
    "20bad_array_new_length4whatEv 4hashIRKSbIwSt11char_traitsIwESaIwEEEclES5_",
    "4hashIRKSsEclES1_ 4hashISbIwSt11char_traitsIwESaIwEEEclES3_ 4hashISsEclESs",
    "4hashISt10error_codeEclES0_ 4hashIeEclEe 8__detail20_Prime_rehash_policy11_M_next_bktEm",
    "8__detail20_Prime_rehash_policy14_M_need_rehashEmmm 8bad_cast4whatEv 8valarrayImE4sizeEv",
    "9bad_alloc4whatEv 9exception4whatEv 9type_info10__do_catchEPKS_PPvj",
    "9type_info11__do_upcastEPKN10__cxxabiv117__class_type_infoEPPv",
    "9type_info14__is_pointer_pEv 9type_info15__is_function_pEv"]),
  ("_ZNKSt1", [
    "1logic_error4whatEv 2__basic_fileIcE7is_openEv 2bad_weak_ptr4whatEv 2future_error4whatEv",
    "3bad_exception4whatEv 3random_device13_M_getentropyEv 3runtime_error4whatEv",
    "4error_category10equivalentERKSt10error_codei",
    "4error_category10equivalentEiRKSt15error_condition",
    "4error_category23default_error_conditionEi 6bad_array_length4whatEv",
    "7bad_function_call4whatEv"]),
  ("_ZNKSt10", ["bad_typeid4whatEv error_code23default_error_conditionEv lock_error4whatEv"]),
  ("_ZNKSt10filesystem", [
    "16filesystem_error4whatEv 16filesystem_error5path1Ev 16filesystem_error5path2Ev",
    "18directory_iteratordeEv"]),
  ("_ZNKSt10filesystem28recursive_directory_iterator", [
    "17recursion_pendingEv 5depthEv 7optionsEv deEv"]),
  ("_ZNKSt10filesystem4path", [
    "11parent_pathEv 12has_filenameEv 13has_root_nameEv 13has_root_pathEv 13relative_pathEv",
    "14root_directoryEv 15has_parent_pathEv 16lexically_normalEv 17_M_find_extensionEv",
    "17has_relative_pathEv 18has_root_directoryEv 18lexically_relativeERKS0_",
    "19lexically_proximateERKS0_ 5_List13_Impl_deleterclEPNS1_5_ImplE 5_List3endEv",
    "5_List5beginEv 7compareERKS0_ 7compareESt17basic_string_viewIcSt11char_traitsIcEE",
    "9root_nameEv 9root_pathEv"]),
  ("_ZNKSt10filesystem7__cxx11", [
    "16filesystem_error4whatEv 16filesystem_error5path1Ev 16filesystem_error5path2Ev",
    "18directory_iteratordeEv"]),
  ("_ZNKSt10filesystem7__cxx1128recursive_directory_iterator", [
    "17recursion_pendingEv 5depthEv 7optionsEv deEv"]),
  ("_ZNKSt10filesystem7__cxx114path", [
    "11parent_pathEv 12has_filenameEv 13has_root_nameEv 13has_root_pathEv 13relative_pathEv",
    "14root_directoryEv 15has_parent_pathEv 16lexically_normalEv 17_M_find_extensionEv",
    "17has_relative_pathEv 18has_root_directoryEv 18lexically_relativeERKS1_",
    "19lexically_proximateERKS1_ 5_List13_Impl_deleterclEPNS2_5_ImplE 5_List3endEv",
    "5_List5beginEv 7compareERKS1_ 7compareESt17basic_string_viewIcSt11char_traitsIcEE",
    "9root_nameEv 9root_pathEv"]),
  ("_ZNKSt19basic_", [
    "istringstreamIcSt11char_traitsIcESaIcEE3strEv",
    "istringstreamIcSt11char_traitsIcESaIcEE5rdbufEv",
    "istringstreamIwSt11char_traitsIwESaIwEE3strEv",
    "istringstreamIwSt11char_traitsIwESaIwEE5rdbufEv",
    "ostringstreamIcSt11char_traitsIcESaIcEE3strEv",
    "ostringstreamIcSt11char_traitsIcESaIcEE5rdbufEv",
    "ostringstreamIwSt11char_traitsIwESaIwEE3strEv",
    "ostringstreamIwSt11char_traitsIwESaIwEE5rdbufEv"]),
  ("_ZNKSt3_V214error_category", [
    "10_M_messageB5cxx11Ei 10_M_messageEi 10equivalentERKSt10error_codei",
    "10equivalentEiRKSt15error_condition 23default_error_conditionEi"]),
  ("_ZNKSt3tr14hashI", [
    "NSt7__cxx1112basic_stringIcSt11char_traitsIcESaIcEEEEclES6_",
    "NSt7__cxx1112basic_stringIwSt11char_traitsIwESaIwEEEEclES6_",
    "RKSbIwSt11char_traitsIwESaIwEEEclES6_ RKSsEclES2_ SbIwSt11char_traitsIwESaIwEEEclES4_",
    "SsEclESs eEclEe"]),
  ("_ZNOSt7__cxx111", [
    "5basic_stringbufIcSt11char_traitsIcESaIcEE3strEv",
    "5basic_stringbufIwSt11char_traitsIwESaIwEE3strEv",
    "8basic_stringstreamIcSt11char_traitsIcESaIcEE3strEv",
    "8basic_stringstreamIwSt11char_traitsIwESaIwEE3strEv",
    "9basic_istringstreamIcSt11char_traitsIcESaIcEE3strEv",
    "9basic_istringstreamIwSt11char_traitsIwESaIwEE3strEv",
    "9basic_ostringstreamIcSt11char_traitsIcESaIcEE3strEv",
    "9basic_ostringstreamIwSt11char_traitsIwESaIwEE3strEv"]),
  ("_ZNS", [
    "aIcEC1ERKS_ aIcEC1Ev aIcEC2ERKS_ aIcEC2Ev aIcED1Ev aIcED2Ev aIwEC1ERKS_ aIwEC1Ev",
    "aIwEC2ERKS_ aIwEC2Ev aIwED1Ev aIwED2Ev"]),
  ("_ZNSt10", [
    "_Sp_lockerC1EPKv _Sp_lockerC1EPKvS1_ _Sp_lockerC2EPKv _Sp_lockerC2EPKvS1_ _Sp_lockerD1Ev",
    "_Sp_lockerD2Ev __num_base11_S_atoms_inE __num_base12_S_atoms_outE",
    "__num_base15_S_format_floatERKSt8ios_basePcc bad_typeidD0Ev bad_typeidD1Ev bad_typeidD2Ev",
    "money_base18_S_default_patternE money_base20_S_construct_patternEccc money_base8_S_atomsE"]),
  ("_ZNSt10filesystem", [
    "4copyERKNS_4pathES2_NS_12copy_optionsE",
    "4copyERKNS_4pathES2_NS_12copy_optionsERSt10error_code",
    "4copyERKNS_7__cxx114pathES3_NS_12copy_optionsE",
    "4copyERKNS_7__cxx114pathES3_NS_12copy_optionsERSt10error_code 4path14_M_split_cmptsEv",
    "4path14_S_convert_locEPKcS2_RKSt6locale 4path15remove_filenameEv",
    "4path16replace_filenameERKS0_ 4path17replace_extensionERKS0_ 4path5_ListC1ERKS1_",
    "4path5_ListC1Ev 4path9_M_appendESt17basic_string_viewIcSt11char_traitsIcEE",
    "4path9_M_concatESt17basic_string_viewIcSt11char_traitsIcEE 4pathaSERKS0_ 4pathdVERKS0_",
    "4pathpLERKS0_ 5spaceERKNS_4pathE 5spaceERKNS_4pathERSt10error_code",
    "5spaceERKNS_7__cxx114pathE 5spaceERKNS_7__cxx114pathERSt10error_code 6removeERKNS_4pathE",
    "6removeERKNS_4pathERSt10error_code 6removeERKNS_7__cxx114pathE",
    "6removeERKNS_7__cxx114pathERSt10error_code 6renameERKNS_4pathES2_",
    "6renameERKNS_4pathES2_RSt10error_code 6renameERKNS_7__cxx114pathES3_",
    "6renameERKNS_7__cxx114pathES3_RSt10error_code 6statusERKNS_4pathE",
    "6statusERKNS_4pathERSt10error_code 6statusERKNS_7__cxx114pathE",
    "6statusERKNS_7__cxx114pathERSt10error_code 8absoluteERKNS_4pathE",
    "8absoluteERKNS_4pathERSt10error_code 8absoluteERKNS_7__cxx114pathE",
    "8absoluteERKNS_7__cxx114pathERSt10error_code 8is_emptyERKNS_4pathE",
    "8is_emptyERKNS_4pathERSt10error_code 8is_emptyERKNS_7__cxx114pathE",
    "8is_emptyERKNS_7__cxx114pathERSt10error_code 8relativeERKNS_4pathES2_",
    "8relativeERKNS_4pathES2_RSt10error_code 8relativeERKNS_7__cxx114pathES3_",
    "8relativeERKNS_7__cxx114pathES3_RSt10error_code 9canonicalERKNS_4pathE",
    "9canonicalERKNS_4pathERSt10error_code 9canonicalERKNS_7__cxx114pathE",
    "9canonicalERKNS_7__cxx114pathERSt10error_code 9copy_fileERKNS_4pathES2_NS_12copy_optionsE",
    "9copy_fileERKNS_4pathES2_NS_12copy_optionsERSt10error_code",
    "9copy_fileERKNS_7__cxx114pathES3_NS_12copy_optionsE",
    "9copy_fileERKNS_7__cxx114pathES3_NS_12copy_optionsERSt10error_code 9file_sizeERKNS_4pathE",
    "9file_sizeERKNS_4pathERSt10error_code 9file_sizeERKNS_7__cxx114pathE",
    "9file_sizeERKNS_7__cxx114pathERSt10error_code 9proximateERKNS_4pathES2_",
    "9proximateERKNS_4pathES2_RSt10error_code 9proximateERKNS_7__cxx114pathES3_",
    "9proximateERKNS_7__cxx114pathES3_RSt10error_code"]),
  ("_ZNSt10filesystem1", [
    "0equivalentERKNS_4pathES2_ 0equivalentERKNS_4pathES2_RSt10error_code",
    "0equivalentERKNS_7__cxx114pathES3_ 0equivalentERKNS_7__cxx114pathES3_RSt10error_code",
    "0hash_valueERKNS_4pathE 0remove_allERKNS_4pathE 0remove_allERKNS_4pathERSt10error_code",
    "0remove_allERKNS_7__cxx114pathE 0remove_allERKNS_7__cxx114pathERSt10error_code"]),
  ("_ZNSt10filesystem11permissionsERKNS_", [
    "4pathENS_5permsENS_12perm_optionsE 4pathENS_5permsENS_12perm_optionsERSt10error_code",
    "7__cxx114pathENS_5permsENS_12perm_optionsE",
    "7__cxx114pathENS_5permsENS_12perm_optionsERSt10error_code"]),
  ("_ZNSt10filesystem11resize_fileERKNS_", [
    "4pathEm 4pathEmRSt10error_code 7__cxx114pathEm 7__cxx114pathEmRSt10error_code"]),
  ("_ZNSt10filesystem12copy_symlinkERKNS_", [
    "4pathES2_ 4pathES2_RSt10error_code 7__cxx114pathES3_ 7__cxx114pathES3_RSt10error_code"]),
  ("_ZNSt10filesystem12current_path", [
    "B5cxx11ERSt10error_code B5cxx11Ev ERKNS_4pathE ERKNS_4pathERSt10error_code",
    "ERKNS_7__cxx114pathE ERKNS_7__cxx114pathERSt10error_code ERSt10error_code Ev"]),
  ("_ZNSt10filesystem12read_symlinkERKNS_", [
    "4pathE 4pathERSt10error_code 7__cxx114pathE 7__cxx114pathERSt10error_code"]),
  ("_ZNSt10filesystem14create_symlinkERKNS_", [
    "4pathES2_ 4pathES2_RSt10error_code 7__cxx114pathES3_ 7__cxx114pathES3_RSt10error_code"]),
  ("_ZNSt10filesystem14symlink_statusERKNS_", [
    "4pathE 4pathERSt10error_code 7__cxx114pathE 7__cxx114pathERSt10error_code"]),
  ("_ZNSt10filesystem15hard_link_countERKNS_", [
    "4pathE 4pathERSt10error_code 7__cxx114pathE 7__cxx114pathERSt10error_code"]),
  ("_ZNSt10filesystem15last_write_timeERKNS_", [
    "4pathE 4pathERSt10error_code 7__cxx114pathE 7__cxx114pathERSt10error_code"]),
  ("_ZNSt10filesystem15last_write_timeERKNS_4pa", [
    "thENSt6chrono10time_pointINS_12__file_clockENS3_8durationIlSt5ratioILl1ELl1000000000EEEEEE"]),
  ("_ZNSt10filesystem15last_write_timeERKNS_4pathENSt6chrono10", [
    "time_pointINS_12__file_clockENS3_8durationIlSt5ratioILl1ELl1000000000EEEEEERSt10error_code"]),
  ("_ZNSt10filesystem15last_write_timeERKNS_7__cxx114pa", [
    "thENSt6chrono10time_pointINS_12__file_clockENS4_8durationIlSt5ratioILl1ELl1000000000EEEEEE"]),
  ("_ZNSt10filesystem15last_write_timeERKNS_7__cxx114pathENSt6chrono10", [
    "time_pointINS_12__file_clockENS4_8durationIlSt5ratioILl1ELl1000000000EEEEEERSt10error_code"]),
  ("_ZNSt10filesystem16create_", [
    "hard_linkERKNS_4pathES2_ hard_linkERKNS_4pathES2_RSt10error_code",
    "hard_linkERKNS_7__cxx114pathES3_ hard_linkERKNS_7__cxx114pathES3_RSt10error_code"]),
  ("_ZNSt10filesystem16create_directoryERKNS_", [
    "4pathE 4pathERSt10error_code 4pathES2_ 4pathES2_RSt10error_code 7__cxx114pathE",
    "7__cxx114pathERSt10error_code 7__cxx114pathES3_ 7__cxx114pathES3_RSt10error_code"]),
  ("_ZNSt10filesystem16filesystem_error", [
    "C1ERKSsRKNS_4pathES5_St10error_code C1ERKSsRKNS_4pathESt10error_code C1ERKSsSt10error_code",
    "C2ERKSsRKNS_4pathES5_St10error_code C2ERKSsRKNS_4pathESt10error_code C2ERKSsSt10error_code",
    "D0Ev D1Ev D2Ev"]),
  ("_ZNSt10filesystem16weakly_canonicalERKNS_", [
    "4pathE 4pathERSt10error_code 7__cxx114pathE 7__cxx114pathERSt10error_code"]),
  ("_ZNSt10filesystem18create_directoriesERKNS_", [
    "4pathE 4pathERSt10error_code 7__cxx114pathE 7__cxx114pathERSt10error_code"]),
  ("_ZNSt10filesystem18directory_iterator", [
    "9incrementERSt10error_code C1ERKNS_4pathENS_17directory_optionsEPSt10error_code",
    "C2ERKNS_4pathENS_17directory_optionsEPSt10error_code ppEv"]),
  ("_ZNSt10filesystem19temp_directory_path", [
    "B5cxx11ERSt10error_code B5cxx11Ev ERSt10error_code Ev"]),
  ("_ZNSt10filesystem24create_directory_symlinkERKNS_", [
    "4pathES2_ 4pathES2_RSt10error_code 7__cxx114pathES3_ 7__cxx114pathES3_RSt10error_code"]),
  ("_ZNSt10filesystem28recursive_directory_iterator", [
    "25disable_recursion_pendingEv 3popERSt10error_code 3popEv 9incrementERSt10error_code",
    "C1ERKNS_4pathENS_17directory_optionsEPSt10error_code",
    "C2ERKNS_4pathENS_17directory_optionsEPSt10error_code D1Ev D2Ev aSEOS0_ aSERKS0_ ppEv"]),
  ("_ZNSt10filesystem7__cxx11", [
    "4path14_M_split_cmptsEv 4path14_S_convert_locEPKcS3_RKSt6locale 4path15remove_filenameEv",
    "4path16replace_filenameERKS1_ 4path17replace_extensionERKS1_ 4path5_ListC1ERKS2_",
    "4path5_ListC1Ev 4path9_M_appendESt17basic_string_viewIcSt11char_traitsIcEE",
    "4path9_M_concatESt17basic_string_viewIcSt11char_traitsIcEE 4pathaSERKS1_ 4pathdVERKS1_",
    "4pathpLERKS1_"]),
  ("_ZNSt10filesystem7__cxx111", ["0hash_valueERKNS0_4pathE"]),
  ("_ZNSt10filesystem7__cxx1116filesystem_error", ["D0Ev D1Ev D2Ev"]),
  ("_ZNSt10filesystem7__cxx1116filesystem_errorC1ERKNSt7__cxx1112basic_stringIcSt11char_t", [
    "raitsIcESaIcEEERKNS0_4pathESC_St10error_code raitsIcESaIcEEERKNS0_4pathESt10error_code",
    "raitsIcESaIcEEESt10error_code"]),
  ("_ZNSt10filesystem7__cxx1116filesystem_errorC2ERKNSt7__cxx1112basic_stringIcSt11char_t", [
    "raitsIcESaIcEEERKNS0_4pathESC_St10error_code raitsIcESaIcEEERKNS0_4pathESt10error_code",
    "raitsIcESaIcEEESt10error_code"]),
  ("_ZNSt10filesystem7__cxx1118directory_iterator", [
    "9incrementERSt10error_code C1ERKNS0_4pathENS_17directory_optionsEPSt10error_code",
    "C2ERKNS0_4pathENS_17directory_optionsEPSt10error_code ppEv"]),
  ("_ZNSt10filesystem7__cxx1128recursive_directory_iterator", [
    "25disable_recursion_pendingEv 3popERSt10error_code 3popEv 9incrementERSt10error_code",
    "C1ERKNS0_4pathENS_17directory_optionsEPSt10error_code",
    "C2ERKNS0_4pathENS_17directory_optionsEPSt10error_code D1Ev D2Ev aSEOS1_ aSERKS1_ ppEv"]),
  ("_ZNSt11", ["char_traitsIcE2eqERKcS2_ char_traitsIwE2eqERKwS2_"]),
  ("_ZNSt11logic_error", [
    "C1EOS_ C1EPKc C1ERKNSt7__cxx1112basic_stringIcSt11char_traitsIcESaIcEEE C1ERKS_ C1ERKSs",
    "C2EOS_ C2EPKc C2ERKNSt7__cxx1112basic_stringIcSt11char_traitsIcESaIcEEE C2ERKS_ C2ERKSs",
    "D0Ev D1Ev D2Ev aSEOS_ aSERKS_"]),
  ("_ZNSt11range_error", [
    "C1EPKc C1ERKNSt7__cxx1112basic_stringIcSt11char_traitsIcESaIcEEE C1ERKSs C2EPKc",
    "C2ERKNSt7__cxx1112basic_stringIcSt11char_traitsIcESaIcEEE C2ERKSs D0Ev D1Ev D2Ev"]),
  ("_ZNSt11regex_error", [
    "C1ENSt15regex_constants10error_typeE C2ENSt15regex_constants10error_typeE D0Ev D1Ev D2Ev"]),
  ("_ZNSt11this_t", [
    "hread11__sleep_forENSt6chrono8durationIlSt5ratioILl1ELl1EEEENS1_IlS2_ILl1ELl1000000000EEEE"]),
  ("_ZNSt12", [
    "bad_weak_ptrD0Ev bad_weak_ptrD1Ev bad_weak_ptrD2Ev future_errorD0Ev future_errorD1Ev",
    "future_errorD2Ev system_errorD0Ev system_errorD1Ev system_errorD2Ev"]),
  ("_ZNSt12__basic_fileIcE", [
    "2fdEv 4fileEv 4openEPKcSt13_Ios_Openmodei 4syncEv 5closeEv 6xsgetnEPcl 6xsputnEPKcl",
    "7seekoffElSt12_Ios_Seekdir 8sys_openEP8_IO_FILESt13_Ios_Openmode",
    "8sys_openEiSt13_Ios_Openmode 8xsputn_2EPKclS2_l 9showmanycEv C1EP15pthread_mutex_t",
    "C2EP15pthread_mutex_t D1Ev D2Ev"]),
  ("_ZNSt12__shared_ptrINSt10filesystem28recursive_directory_iterator10_Dir_stackELN9__gn", [
    "u_cxx12_Lock_policyE2EEC1EOS5_ u_cxx12_Lock_policyE2EEC1Ev u_cxx12_Lock_policyE2EEC2EOS5_",
    "u_cxx12_Lock_policyE2EEC2Ev"]),
  ("_ZNSt12__shared_ptrINSt10filesystem4_DirELN9__gnu_cxx12_Lock_policyE2EE", [
    "C1EOS4_ C1Ev C2EOS4_ C2Ev aSEOS4_"]),
  ("_ZNSt12__shared_ptrINSt10filesystem7__cxx1128recursive_directory_iterator10_Dir_stack", [
    "ELN9__gnu_cxx12_Lock_policyE2EEC1EOS6_ ELN9__gnu_cxx12_Lock_policyE2EEC1Ev",
    "ELN9__gnu_cxx12_Lock_policyE2EEC2EOS6_ ELN9__gnu_cxx12_Lock_policyE2EEC2Ev"]),
  ("_ZNSt12__shared_ptrINSt10filesystem7__cxx114_DirELN9__gnu_cxx12_Lock_policyE2EE", [
    "C1EOS5_ C1Ev C2EOS5_ C2Ev aSEOS5_"]),
  ("_ZNSt12domain_error", [
    "C1EPKc C1ERKNSt7__cxx1112basic_stringIcSt11char_traitsIcESaIcEEE C1ERKSs C2EPKc",
    "C2ERKNSt7__cxx1112basic_stringIcSt11char_traitsIcESaIcEEE C2ERKSs D0Ev D1Ev D2Ev"]),
  ("_ZNSt12length_error", [
    "C1EPKc C1ERKNSt7__cxx1112basic_stringIcSt11char_traitsIcESaIcEEE C1ERKSs C2EPKc",
    "C2ERKNSt7__cxx1112basic_stringIcSt11char_traitsIcESaIcEEE C2ERKSs D0Ev D1Ev D2Ev"]),
  ("_ZNSt12out_of_range", [
    "C1EPKc C1ERKNSt7__cxx1112basic_stringIcSt11char_traitsIcESaIcEEE C1ERKSs C2EPKc",
    "C2ERKNSt7__cxx1112basic_stringIcSt11char_traitsIcESaIcEEE C2ERKSs D0Ev D1Ev D2Ev"]),
  ("_ZNSt12placeholders", [
    "2_1E 2_2E 2_3E 2_4E 2_5E 2_6E 2_7E 2_8E 2_9E 3_10E 3_11E 3_12E 3_13E 3_14E 3_15E 3_16E",
    "3_17E 3_18E 3_19E 3_20E 3_21E 3_22E 3_23E 3_24E 3_25E 3_26E 3_27E 3_28E 3_29E"]),
  ("_ZNSt13", ["bad_exceptionD0Ev bad_exceptionD1Ev bad_exceptionD2Ev"]),
  ("_ZNSt13__future_base1", [
    "1_State_baseD0Ev 1_State_baseD1Ev 1_State_baseD2Ev 3_State_baseV211_Make_ready6_M_setEv",
    "9_Async_state_commonD0Ev 9_Async_state_commonD1Ev 9_Async_state_commonD2Ev"]),
  ("_ZNSt13__future_base12_Result_base", ["C1Ev C2Ev D0Ev D1Ev D2Ev"]),
  ("_ZNSt13random_device", [
    "14_M_init_pretr1ERKNSt7__cxx1112basic_stringIcSt11char_traitsIcESaIcEEE",
    "14_M_init_pretr1ERKSs 16_M_getval_pretr1Ev 7_M_finiEv",
    "7_M_initERKNSt7__cxx1112basic_stringIcSt11char_traitsIcESaIcEEE 7_M_initERKSs 9_M_getvalEv"]),
  ("_ZNSt13runtime_error", [
    "C1EOS_ C1EPKc C1ERKNSt7__cxx1112basic_stringIcSt11char_traitsIcESaIcEEE C1ERKS_ C1ERKSs",
    "C2EOS_ C2EPKc C2ERKNSt7__cxx1112basic_stringIcSt11char_traitsIcESaIcEEE C2ERKS_ C2ERKSs",
    "D0Ev D1Ev D2Ev aSEOS_ aSERKS_"]),
  ("_ZNSt14error_category", ["C1Ev C2Ev D0Ev D1Ev D2Ev"]),
  ("_ZNSt14numeric_limitsI", [
    "aE10has_denormE aE10is_boundedE aE10is_integerE aE11round_styleE aE12has_infinityE",
    "aE12max_digits10E aE12max_exponentE aE12min_exponentE aE13has_quiet_NaNE",
    "aE14is_specializedE aE14max_exponent10E aE14min_exponent10E aE15has_denorm_lossE",
    "aE15tinyness_beforeE aE17has_signaling_NaNE aE5radixE aE5trapsE aE6digitsE aE8digits10E",
    "aE8is_exactE aE9is_iec559E aE9is_moduloE aE9is_signedE bE10has_denormE bE10is_boundedE",
    "bE10is_integerE bE11round_styleE bE12has_infinityE bE12max_digits10E bE12max_exponentE",
    "bE12min_exponentE bE13has_quiet_NaNE bE14is_specializedE bE14max_exponent10E",
    "bE14min_exponent10E bE15has_denorm_lossE bE15tinyness_beforeE bE17has_signaling_NaNE",
    "bE5radixE bE5trapsE bE6digitsE bE8digits10E bE8is_exactE bE9is_iec559E bE9is_moduloE",
    "bE9is_signedE cE10has_denormE cE10is_boundedE cE10is_integerE cE11round_styleE",
    "cE12has_infinityE cE12max_digits10E cE12max_exponentE cE12min_exponentE cE13has_quiet_NaNE",
    "cE14is_specializedE cE14max_exponent10E cE14min_exponent10E cE15has_denorm_lossE",
    "cE15tinyness_beforeE cE17has_signaling_NaNE cE5radixE cE5trapsE cE6digitsE cE8digits10E",
    "cE8is_exactE cE9is_iec559E cE9is_moduloE cE9is_signedE dE10has_denormE dE10is_boundedE",
    "dE10is_integerE dE11round_styleE dE12has_infinityE dE12max_digits10E dE12max_exponentE",
    "dE12min_exponentE dE13has_quiet_NaNE dE14is_specializedE dE14max_exponent10E",
    "dE14min_exponent10E dE15has_denorm_lossE dE15tinyness_beforeE dE17has_signaling_NaNE",
    "dE5radixE dE5trapsE dE6digitsE dE8digits10E dE8is_exactE dE9is_iec559E dE9is_moduloE",
    "dE9is_signedE eE10has_denormE eE10is_boundedE eE10is_integerE eE11round_styleE",
    "eE12has_infinityE eE12max_digits10E eE12max_exponentE eE12min_exponentE eE13has_quiet_NaNE",
    "eE14is_specializedE eE14max_exponent10E eE14min_exponent10E eE15has_denorm_lossE",
    "eE15tinyness_beforeE eE17has_signaling_NaNE eE5radixE eE5trapsE eE6digitsE eE8digits10E",
    "eE8is_exactE eE9is_iec559E eE9is_moduloE eE9is_signedE fE10has_denormE fE10is_boundedE",
    "fE10is_integerE fE11round_styleE fE12has_infinityE fE12max_digits10E fE12max_exponentE",
    "fE12min_exponentE fE13has_quiet_NaNE fE14is_specializedE fE14max_exponent10E",
    "fE14min_exponent10E fE15has_denorm_lossE fE15tinyness_beforeE fE17has_signaling_NaNE",
    "fE5radixE fE5trapsE fE6digitsE fE8digits10E fE8is_exactE fE9is_iec559E fE9is_moduloE",
    "fE9is_signedE hE10has_denormE hE10is_boundedE hE10is_integerE hE11round_styleE",
    "hE12has_infinityE hE12max_digits10E hE12max_exponentE hE12min_exponentE hE13has_quiet_NaNE",
    "hE14is_specializedE hE14max_exponent10E hE14min_exponent10E hE15has_denorm_lossE",
    "hE15tinyness_beforeE hE17has_signaling_NaNE hE5radixE hE5trapsE hE6digitsE hE8digits10E",
    "hE8is_exactE hE9is_iec559E hE9is_moduloE hE9is_signedE iE10has_denormE iE10is_boundedE",
    "iE10is_integerE iE11round_styleE iE12has_infinityE iE12max_digits10E iE12max_exponentE",
    "iE12min_exponentE iE13has_quiet_NaNE iE14is_specializedE iE14max_exponent10E",
    "iE14min_exponent10E iE15has_denorm_lossE iE15tinyness_beforeE iE17has_signaling_NaNE",
    "iE5radixE iE5trapsE iE6digitsE iE8digits10E iE8is_exactE iE9is_iec559E iE9is_moduloE",
    "iE9is_signedE jE10has_denormE jE10is_boundedE jE10is_integerE jE11round_styleE",
    "jE12has_infinityE jE12max_digits10E jE12max_exponentE jE12min_exponentE jE13has_quiet_NaNE",
    "jE14is_specializedE jE14max_exponent10E jE14min_exponent10E jE15has_denorm_lossE",
    "jE15tinyness_beforeE jE17has_signaling_NaNE jE5radixE jE5trapsE jE6digitsE jE8digits10E",
    "jE8is_exactE jE9is_iec559E jE9is_moduloE jE9is_signedE lE10has_denormE lE10is_boundedE",
    "lE10is_integerE lE11round_styleE lE12has_infinityE lE12max_digits10E lE12max_exponentE",
    "lE12min_exponentE lE13has_quiet_NaNE lE14is_specializedE lE14max_exponent10E",
    "lE14min_exponent10E lE15has_denorm_lossE lE15tinyness_beforeE lE17has_signaling_NaNE",
    "lE5radixE lE5trapsE lE6digitsE lE8digits10E lE8is_exactE lE9is_iec559E lE9is_moduloE",
    "lE9is_signedE mE10has_denormE mE10is_boundedE mE10is_integerE mE11round_styleE",
    "mE12has_infinityE mE12max_digits10E mE12max_exponentE mE12min_exponentE mE13has_quiet_NaNE",
    "mE14is_specializedE mE14max_exponent10E mE14min_exponent10E mE15has_denorm_lossE",
    "mE15tinyness_beforeE mE17has_signaling_NaNE mE5radixE mE5trapsE mE6digitsE mE8digits10E",
    "mE8is_exactE mE9is_iec559E mE9is_moduloE mE9is_signedE nE10has_denormE nE10is_boundedE",
    "nE10is_integerE nE11round_styleE nE12has_infinityE nE12max_digits10E nE12max_exponentE",
    "nE12min_exponentE nE13has_quiet_NaNE nE14is_specializedE nE14max_exponent10E",
    "nE14min_exponent10E nE15has_denorm_lossE nE15tinyness_beforeE nE17has_signaling_NaNE",
    "nE5radixE nE5trapsE nE6digitsE nE8digits10E nE8is_exactE nE9is_iec559E nE9is_moduloE",
    "nE9is_signedE oE10has_denormE oE10is_boundedE oE10is_integerE oE11round_styleE",
    "oE12has_infinityE oE12max_digits10E oE12max_exponentE oE12min_exponentE oE13has_quiet_NaNE",
    "oE14is_specializedE oE14max_exponent10E oE14min_exponent10E oE15has_denorm_lossE",
    "oE15tinyness_beforeE oE17has_signaling_NaNE oE5radixE oE5trapsE oE6digitsE oE8digits10E",
    "oE8is_exactE oE9is_iec559E oE9is_moduloE oE9is_signedE sE10has_denormE sE10is_boundedE",
    "sE10is_integerE sE11round_styleE sE12has_infinityE sE12max_digits10E sE12max_exponentE",
    "sE12min_exponentE sE13has_quiet_NaNE sE14is_specializedE sE14max_exponent10E",
    "sE14min_exponent10E sE15has_denorm_lossE sE15tinyness_beforeE sE17has_signaling_NaNE",
    "sE5radixE sE5trapsE sE6digitsE sE8digits10E sE8is_exactE sE9is_iec559E sE9is_moduloE",
    "sE9is_signedE tE10has_denormE tE10is_boundedE tE10is_integerE tE11round_styleE",
    "tE12has_infinityE tE12max_digits10E tE12max_exponentE tE12min_exponentE tE13has_quiet_NaNE",
    "tE14is_specializedE tE14max_exponent10E tE14min_exponent10E tE15has_denorm_lossE",
    "tE15tinyness_beforeE tE17has_signaling_NaNE tE5radixE tE5trapsE tE6digitsE tE8digits10E",
    "tE8is_exactE tE9is_iec559E tE9is_moduloE tE9is_signedE wE10has_denormE wE10is_boundedE",
    "wE10is_integerE wE11round_styleE wE12has_infinityE wE12max_digits10E wE12max_exponentE",
    "wE12min_exponentE wE13has_quiet_NaNE wE14is_specializedE wE14max_exponent10E",
    "wE14min_exponent10E wE15has_denorm_lossE wE15tinyness_beforeE wE17has_signaling_NaNE",
    "wE5radixE wE5trapsE wE6digitsE wE8digits10E wE8is_exactE wE9is_iec559E wE9is_moduloE",
    "wE9is_signedE xE10has_denormE xE10is_boundedE xE10is_integerE xE11round_styleE",
    "xE12has_infinityE xE12max_digits10E xE12max_exponentE xE12min_exponentE xE13has_quiet_NaNE",
    "xE14is_specializedE xE14max_exponent10E xE14min_exponent10E xE15has_denorm_lossE",
    "xE15tinyness_beforeE xE17has_signaling_NaNE xE5radixE xE5trapsE xE6digitsE xE8digits10E",
    "xE8is_exactE xE9is_iec559E xE9is_moduloE xE9is_signedE yE10has_denormE yE10is_boundedE",
    "yE10is_integerE yE11round_styleE yE12has_infinityE yE12max_digits10E yE12max_exponentE",
    "yE12min_exponentE yE13has_quiet_NaNE yE14is_specializedE yE14max_exponent10E",
    "yE14min_exponent10E yE15has_denorm_lossE yE15tinyness_beforeE yE17has_signaling_NaNE",
    "yE5radixE yE5trapsE yE6digitsE yE8digits10E yE8is_exactE yE9is_iec559E yE9is_moduloE",
    "yE9is_signedE"]),
  ("_ZNSt14numeric_limitsID", [
    "iE10has_denormE iE10is_boundedE iE10is_integerE iE11round_styleE iE12has_infinityE",
    "iE12max_digits10E iE12max_exponentE iE12min_exponentE iE13has_quiet_NaNE",
    "iE14is_specializedE iE14max_exponent10E iE14min_exponent10E iE15has_denorm_lossE",
    "iE15tinyness_beforeE iE17has_signaling_NaNE iE5radixE iE5trapsE iE6digitsE iE8digits10E",
    "iE8is_exactE iE9is_iec559E iE9is_moduloE iE9is_signedE sE10has_denormE sE10is_boundedE",
    "sE10is_integerE sE11round_styleE sE12has_infinityE sE12max_digits10E sE12max_exponentE",
    "sE12min_exponentE sE13has_quiet_NaNE sE14is_specializedE sE14max_exponent10E",
    "sE14min_exponent10E sE15has_denorm_lossE sE15tinyness_beforeE sE17has_signaling_NaNE",
    "sE5radixE sE5trapsE sE6digitsE sE8digits10E sE8is_exactE sE9is_iec559E sE9is_moduloE",
    "sE9is_signedE uE10has_denormE uE10is_boundedE uE10is_integerE uE11round_styleE",
    "uE12has_infinityE uE12max_exponentE uE12min_exponentE uE13has_quiet_NaNE",
    "uE14is_specializedE uE14max_exponent10E uE14min_exponent10E uE15has_denorm_lossE",
    "uE15tinyness_beforeE uE17has_signaling_NaNE uE5radixE uE5trapsE uE6digitsE uE8digits10E",
    "uE8is_exactE uE9is_iec559E uE9is_moduloE uE9is_signedE"]),
  ("_ZNSt14overflow_error", [
    "C1EPKc C1ERKNSt7__cxx1112basic_stringIcSt11char_traitsIcESaIcEEE C1ERKSs C2EPKc",
    "C2ERKNSt7__cxx1112basic_stringIcSt11char_traitsIcESaIcEEE C2ERKSs D0Ev D1Ev D2Ev"]),
  ("_ZNSt15_List_node_base", [
    "10_M_reverseEv 11_M_transferEPS_S0_ 4hookEPS_ 4swapERS_S0_ 6unhookEv 7_M_hookEPS_",
    "7reverseEv 8transferEPS_S0_ 9_M_unhookEv"]),
  ("_ZNSt15underflow_error", [
    "C1EPKc C1ERKNSt7__cxx1112basic_stringIcSt11char_traitsIcESaIcEEE C1ERKSs C2EPKc",
    "C2ERKNSt7__cxx1112basic_stringIcSt11char_traitsIcESaIcEEE C2ERKSs D0Ev D1Ev D2Ev"]),
  ("_ZNSt16", [
    "__time_get_state17_M_finalize_stateEP2tm bad_array_lengthD0Ev bad_array_lengthD1Ev",
    "bad_array_lengthD2Ev nested_exceptionD0Ev nested_exceptionD1Ev nested_exceptionD2Ev"]),
  ("_ZNSt16invalid_argument", [
    "C1EPKc C1ERKNSt7__cxx1112basic_stringIcSt11char_traitsIcESaIcEEE C1ERKSs C2EPKc",
    "C2ERKNSt7__cxx1112basic_stringIcSt11char_traitsIcESaIcEEE C2ERKSs D0Ev D1Ev D2Ev"]),
  ("_ZNSt17bad_function_callD", ["0Ev 1Ev 2Ev"]),
  ("_ZNSt18condition_variable", [
    "10notify_allEv 10notify_oneEv 4waitERSt11unique_lockISt5mutexE C1Ev C2Ev D1Ev D2Ev"]),
  ("_ZNSt19", [
    "_Sp_make_shared_tag5_S_eqERKSt9type_info istreambuf_iteratorIcSt11char_traitsIcEEppEv",
    "istreambuf_iteratorIwSt11char_traitsIwEEppEv"]),
  ("_ZNSt19basic_istringstreamIcSt11char_traitsIcESaIcEE", [
    "3strERKSs 4swapERS3_ C1EOS3_ C1ERKSsSt13_Ios_Openmode C1ESt13_Ios_Openmode C1Ev C2EOS3_",
    "C2ERKSsSt13_Ios_Openmode C2ESt13_Ios_Openmode C2Ev D0Ev D1Ev D2Ev aSEOS3_"]),
  ("_ZNSt19basic_istringstreamIwSt11char_traitsIwESaIwEE", [
    "3strERKSbIwS1_S2_E 4swapERS3_ C1EOS3_ C1ERKSbIwS1_S2_ESt13_Ios_Openmode",
    "C1ESt13_Ios_Openmode C1Ev C2EOS3_ C2ERKSbIwS1_S2_ESt13_Ios_Openmode C2ESt13_Ios_Openmode",
    "C2Ev D0Ev D1Ev D2Ev aSEOS3_"]),
  ("_ZNSt19basic_ostringstreamIcSt11char_traitsIcESaIcEE", [
    "3strERKSs 4swapERS3_ C1EOS3_ C1ERKSsSt13_Ios_Openmode C1ESt13_Ios_Openmode C1Ev C2EOS3_",
    "C2ERKSsSt13_Ios_Openmode C2ESt13_Ios_Openmode C2Ev D0Ev D1Ev D2Ev aSEOS3_"]),
  ("_ZNSt19basic_ostringstreamIwSt11char_traitsIwESaIwEE", [
    "3strERKSbIwS1_S2_E 4swapERS3_ C1EOS3_ C1ERKSbIwS1_S2_ESt13_Ios_Openmode",
    "C1ESt13_Ios_Openmode C1Ev C2EOS3_ C2ERKSbIwS1_S2_ESt13_Ios_Openmode C2ESt13_Ios_Openmode",
    "C2Ev D0Ev D1Ev D2Ev aSEOS3_"]),
  ("_ZNSt20bad_array_new_lengthD", ["0Ev 1Ev 2Ev"]),
  ("_ZNSt21__numeric_limits_base", [
    "10has_denormE 10is_boundedE 10is_integerE 11round_styleE 12has_infinityE 12max_digits10E",
    "12max_exponentE 12min_exponentE 13has_quiet_NaNE 14is_specializedE 14max_exponent10E",
    "14min_exponent10E 15has_denorm_lossE 15tinyness_beforeE 17has_signaling_NaNE 5radixE",
    "5trapsE 6digitsE 8digits10E 8is_exactE 9is_iec559E 9is_moduloE 9is_signedE"]),
  ("_ZNSt22condition_variable_any", ["C1Ev C2Ev D1Ev D2Ev"]),
  ("_ZNSt28__atomic_futex_unsigned_base", ["19_M_futex_notify_allEPj"]),
  ("_ZNSt28__atomic_futex_unsigned_base19_M_fu", [
    "tex_wait_untilEPjjbNSt6chrono8durationIlSt5ratioILl1ELl1EEEENS2_IlS3_ILl1ELl1000000000EEEE"]),
  ("_ZNSt28__atomic_futex_unsigned_base26_M_futex_wai", [
    "t_until_steadyEPjjbNSt6chrono8durationIlSt5ratioILl1ELl1EEEENS2_IlS3_ILl1ELl1000000000EEEE"]),
  ("_ZNSt3", [
    "_V214error_categoryD0Ev _V214error_categoryD1Ev _V214error_categoryD2Ev",
    "_V215system_categoryEv _V216generic_categoryEv tr18__detail12__prime_listE"]),
  ("_ZNSt3pmr", [
    "15memory_resourceD0Ev 15memory_resourceD1Ev 15memory_resourceD2Ev 19new_delete_resourceEv"]),
  ("_ZNSt3pmr2", [
    "0get_default_resourceEv 0null_memory_resourceEv",
    "0set_default_resourceEPNS_15memory_resourceE"]),
  ("_ZNSt3pmr25monotonic_buffer_resource", [
    "13_M_new_bufferEmm 18_M_release_buffersEv D0Ev D1Ev D2Ev"]),
  ("_ZNSt3pmr26synchronized_pool_resource", [
    "11do_allocateEmm 13do_deallocateEPvmm 7releaseEv",
    "C1ERKNS_12pool_optionsEPNS_15memory_resourceE",
    "C2ERKNS_12pool_optionsEPNS_15memory_resourceE D1Ev D2Ev"]),
  ("_ZNSt3pmr28unsynchronized_pool_resource", [
    "11do_allocateEmm 13do_deallocateEPvmm 7releaseEv",
    "C1ERKNS_12pool_optionsEPNS_15memory_resourceE",
    "C2ERKNS_12pool_optionsEPNS_15memory_resourceE D1Ev D2Ev"]),
  ("_ZNSt6", [
    "chrono12system_clock12is_monotonicE chrono12system_clock3nowEv",
    "chrono3_V212steady_clock3nowEv chrono3_V212steady_clock9is_steadyE",
    "chrono3_V212system_clock3nowEv chrono3_V212system_clock9is_steadyE",
    "gslice8_IndexerC1EmRKSt8valarrayImES4_ gslice8_IndexerC2EmRKSt8valarrayImES4_"]),
  ("_ZNSt6__norm15_List_node_base", [
    "10_M_reverseEv 11_M_transferEPS0_S1_ 4hookEPS0_ 4swapERS0_S1_ 6unhookEv 7_M_hookEPS0_",
    "7reverseEv 8transferEPS0_S1_ 9_M_unhookEv"]),
  ("_ZNSt6thread", [
    "20hardware_concurrencyEv 4joinEv 6_StateD0Ev 6_StateD1Ev 6_StateD2Ev 6detachEv"]),
  ("_ZNSt6thread15_M_start_threadESt10", [
    "shared_ptrINS_10_Impl_baseEE shared_ptrINS_10_Impl_baseEEPFvvE",
    "unique_ptrINS_6_StateESt14default_deleteIS1_EEPFvvE"]),
  ("_ZNSt8", ["bad_castD0Ev bad_castD1Ev bad_castD2Ev"]),
  ("_ZNSt8__detail1", ["2__prime_listE"]),
  ("_ZNSt8__detail15_List_node_base", [
    "10_M_reverseEv 11_M_transferEPS0_S1_ 4swapERS0_S1_ 7_M_hookEPS0_ 9_M_unhookEv"]),
  ("_ZNSt8valarrayImE", ["C1ERKS0_ C1Em C2ERKS0_ C2Em D1Ev D2Ev ixEm"]),
  ("_ZNSt9", [
    "bad_allocD0Ev bad_allocD1Ev bad_allocD2Ev exceptionD0Ev exceptionD1Ev exceptionD2Ev",
    "type_infoD0Ev type_infoD1Ev type_infoD2Ev"]),
  ("_ZNSt9__", [
    "atomic011atomic_flag12test_and_setESt12memory_order",
    "atomic011atomic_flag5clearESt12memory_order"]),
  ("_ZNSt9__cxx199815_List_node_base", [
    "10_M_reverseEv 11_M_transferEPS0_S1_ 4hookEPS0_ 4swapERS0_S1_ 6unhookEv 7_M_hookEPS0_",
    "7reverseEv 8transferEPS0_S1_ 9_M_unhookEv"])]

end GuestBridge.Posix.SystemLibrary
