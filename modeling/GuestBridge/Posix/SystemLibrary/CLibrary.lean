import GuestBridge.Posix.SystemLibrary.NameFamily

/-!
The symbols of the C library by the versions that they came with.
-/
namespace GuestBridge.Posix.SystemLibrary

def cSymbols : List VersionedNames := [
  { version := "GLIBC_2.2.5"
    names := words [
      "_Exit _IO_2_1_stderr_ _IO_2_1_stdin_ _IO_2_1_stdout_ _IO_adjust_column",
      "_IO_adjust_wcolumn _IO_default_doallocate _IO_default_finish _IO_default_pbackfail",
      "_IO_default_uflow _IO_default_xsgetn _IO_default_xsputn _IO_do_write _IO_doallocbuf",
      "_IO_fclose _IO_fdopen _IO_feof _IO_ferror _IO_fflush _IO_fgetpos _IO_fgetpos64",
      "_IO_fgets _IO_file_attach _IO_file_close _IO_file_close_it _IO_file_doallocate",
      "_IO_file_finish _IO_file_fopen _IO_file_init _IO_file_jumps _IO_file_open",
      "_IO_file_overflow _IO_file_read _IO_file_seek _IO_file_seekoff _IO_file_setbuf",
      "_IO_file_stat _IO_file_sync _IO_file_underflow _IO_file_write _IO_file_xsputn",
      "_IO_flockfile _IO_flush_all _IO_flush_all_linebuffered _IO_fopen _IO_fprintf _IO_fputs",
      "_IO_fread _IO_free_backup_area _IO_free_wbackup_area _IO_fsetpos _IO_fsetpos64",
      "_IO_ftell _IO_ftrylockfile _IO_funlockfile _IO_fwrite _IO_getc _IO_getline",
      "_IO_getline_info _IO_gets _IO_init _IO_init_marker _IO_init_wmarker _IO_iter_begin",
      "_IO_iter_end _IO_iter_file _IO_iter_next _IO_least_wmarker _IO_link_in _IO_list_all",
      "_IO_list_lock _IO_list_resetlock _IO_list_unlock _IO_marker_delta _IO_marker_difference",
      "_IO_padn _IO_peekc_locked _IO_popen _IO_printf _IO_proc_close _IO_proc_open _IO_putc",
      "_IO_puts _IO_remove_marker _IO_seekmark _IO_seekoff _IO_seekpos _IO_seekwmark _IO_setb",
      "_IO_setbuffer _IO_setvbuf _IO_sgetn _IO_sprintf _IO_sputbackc _IO_sputbackwc _IO_sscanf",
      "_IO_str_init_readonly _IO_str_init_static _IO_str_overflow _IO_str_pbackfail",
      "_IO_str_seekoff _IO_str_underflow _IO_sungetc _IO_sungetwc _IO_switch_to_get_mode",
      "_IO_switch_to_main_wget_area _IO_switch_to_wbackup_area _IO_switch_to_wget_mode",
      "_IO_un_link _IO_ungetc _IO_unsave_markers _IO_unsave_wmarkers _IO_vfprintf _IO_vsprintf",
      "_IO_wdefault_doallocate _IO_wdefault_finish _IO_wdefault_pbackfail _IO_wdefault_uflow",
      "_IO_wdefault_xsgetn _IO_wdefault_xsputn _IO_wdo_write _IO_wdoallocbuf _IO_wfile_jumps",
      "_IO_wfile_overflow _IO_wfile_seekoff _IO_wfile_sync _IO_wfile_underflow",
      "_IO_wfile_xsputn _IO_wmarker_delta _IO_wsetb __adjtimex __arch_prctl __argz_count",
      "__argz_next __argz_stringify __asprintf __assert __assert_fail __assert_perror_fail",
      "__backtrace __backtrace_symbols __backtrace_symbols_fd __bsd_getpgrp __bzero",
      "__check_rhosts_file __clone __close __cmsg_nxthdr __connect __ctype_get_mb_cur_max",
      "__curbrk __cxa_atexit __cxa_finalize __cyg_profile_func_enter __cyg_profile_func_exit",
      "__daylight __dcgettext __dgettext __dup2 __duplocale __endmntent __environ",
      "__errno_location __fbufsize __fcntl __ffs __finite __finitef __finitel __flbf __fork",
      "__fpending __fpu_control __fpurge __freadable __freading __freelocale __fsetlocking",
      "__fwritable __fwriting __fxstat __fxstat64 __getdelim __getmntent_r __getpagesize",
      "__getpgid __getpid __gettimeofday __gmtime_r __h_errno_location __isalnum_l __isalpha_l",
      "__isascii_l __isblank_l __iscntrl_l __isdigit_l __isgraph_l __isinf __isinff __isinfl",
      "__islower_l __isnan __isnanf __isnanl __isprint_l __ispunct_l __isspace_l __isupper_l",
      "__iswalnum_l __iswalpha_l __iswblank_l __iswcntrl_l __iswctype __iswctype_l",
      "__iswdigit_l __iswgraph_l __iswlower_l __iswprint_l __iswpunct_l __iswspace_l",
      "__iswupper_l __iswxdigit_l __isxdigit_l __ivaliduser __libc_allocate_rtsig",
      "__libc_calloc __libc_current_sigrtmax __libc_current_sigrtmin __libc_free",
      "__libc_freeres __libc_init_first __libc_mallinfo __libc_malloc __libc_mallopt",
      "__libc_memalign __libc_pvalloc __libc_realloc __libc_sa_len __libc_valloc __lseek",
      "__lxstat __lxstat64 __mbrlen __mbrtowc __mempcpy __monstartup __newlocale",
      "__nl_langinfo_l __nss_configure_lookup __nss_hostname_digits_dots __open __open64",
      "__overflow __pipe __poll __pread64 __printf_fp __profile_frequency __progname",
      "__progname_full __pwrite64 __rawmemchr __rcmd_errstr __read __res_init __res_nclose",
      "__res_ninit __res_randomid __res_state __sbrk __sched_get_priority_max",
      "__sched_get_priority_min __sched_getparam __sched_getscheduler __sched_setscheduler",
      "__sched_yield __select __send __setmntent __setpgid __sigaction __signbit __signbitf",
      "__signbitl __sigpause __sigsetjmp __sigsuspend __statfs __stpcpy __stpncpy __strcasecmp",
      "__strcasecmp_l __strcasestr __strcoll_l __strdup __strerror_r __strfmon_l",
      "__strncasecmp_l __strndup __strsep_g __strtod_internal __strtod_l __strtof_internal",
      "__strtof_l __strtok_r __strtol_internal __strtol_l __strtold_internal __strtold_l",
      "__strtoll_internal __strtoll_l __strtoul_internal __strtoul_l __strtoull_internal",
      "__strtoull_l __strverscmp __strxfrm_l __sysconf __sysv_signal __timezone __toascii_l",
      "__tolower_l __toupper_l __towctrans __towctrans_l __towlower_l __towupper_l __tzname",
      "__uflow __underflow __vfork __vfscanf __vsnprintf __vsscanf __wait __waitpid",
      "__wcscasecmp_l __wcscoll_l __wcsncasecmp_l __wcstod_internal __wcstod_l",
      "__wcstof_internal __wcstof_l __wcstol_internal __wcstol_l __wcstold_internal",
      "__wcstold_l __wcstoll_internal __wcstoll_l __wcstoul_internal __wcstoul_l",
      "__wcstoull_internal __wcstoull_l __wcsxfrm_l __wctrans_l __wctype_l __woverflow __write",
      "__wuflow __wunderflow __xmknod __xpg_basename __xpg_sigpause __xstat __xstat64",
      "_dl_mcount_wrapper _dl_mcount_wrapper_check _environ _exit _flushlbf",
      "_libc_intl_domainname _longjmp _mcleanup _mcount _nl_default_dirname",
      "_nl_domain_bindings _nl_msg_cat_cntr _obstack_allocated_p _obstack_begin",
      "_obstack_begin_1 _obstack_free _obstack_memory_used _obstack_newchunk _res_hconf",
      "_setjmp _tolower _toupper a64l abort abs accept access acct addmntent addseverity",
      "adjtime adjtimex alarm alphasort alphasort64 arch_prctl argp_err_exit_status argp_error",
      "argp_failure argp_help argp_parse argp_program_bug_address argp_program_version",
      "argp_program_version_hook argp_state_help argp_usage argz_add argz_add_sep argz_append",
      "argz_count argz_create argz_create_sep argz_delete argz_extract argz_insert argz_next",
      "argz_replace argz_stringify asctime asctime_r asprintf atof atoi atol atoll backtrace",
      "backtrace_symbols backtrace_symbols_fd basename bcmp bcopy bind bind_textdomain_codeset",
      "bindresvport bindtextdomain brk bsd_signal bsearch btowc bzero calloc",
      "canonicalize_file_name capget capset catclose catgets catopen cfgetispeed cfgetospeed",
      "cfmakeraw cfsetispeed cfsetospeed cfsetspeed chdir chflags chmod chown chroot clearenv",
      "clearerr clearerr_unlocked clock clone close closedir closelog confstr connect copysign",
      "copysignf copysignl creat creat64 ctermid ctime ctime_r cuserid daemon daylight",
      "dcgettext dcngettext delete_module dgettext difftime dirfd dirname div dl_iterate_phdr",
      "dngettext dprintf drand48 drand48_r dup dup2 dysize ecvt ecvt_r endaliasent endfsent",
      "endgrent endhostent endmntent endnetent endnetgrent endprotoent endpwent endrpcent",
      "endservent endspent endttyent endusershell endutent endutxent environ envz_add",
      "envz_entry envz_get envz_merge envz_remove envz_strip erand48 erand48_r err error",
      "error_at_line error_message_count error_one_per_line error_print_progname errx",
      "ether_aton ether_aton_r ether_hostton ether_line ether_ntoa ether_ntoa_r ether_ntohost",
      "euidaccess execl execle execlp execv execve execvp exit fchdir fchflags fchmod fchown",
      "fclose fcloseall fcntl fcvt fcvt_r fdatasync fdopen feof feof_unlocked ferror",
      "ferror_unlocked fexecve fflush fflush_unlocked ffs ffsl ffsll fgetc fgetc_unlocked",
      "fgetgrent fgetgrent_r fgetpos fgetpos64 fgetpwent fgetpwent_r fgets fgets_unlocked",
      "fgetspent fgetspent_r fgetwc fgetwc_unlocked fgetws fgetws_unlocked fileno",
      "fileno_unlocked finite finitef finitel flock flockfile fmtmsg fnmatch fopen fopen64",
      "fopencookie fork fpathconf fprintf fputc fputc_unlocked fputs fputs_unlocked fputwc",
      "fputwc_unlocked fputws fputws_unlocked fread fread_unlocked free freeaddrinfo freopen",
      "freopen64 frexp frexpf frexpl fscanf fseek fseeko fseeko64 fsetpos fsetpos64 fstatfs",
      "fstatfs64 fstatvfs fstatvfs64 fsync ftell ftello ftello64 ftime ftok ftruncate",
      "ftruncate64 ftrylockfile fts_children fts_close fts_open fts_read fts_set ftw ftw64",
      "funlockfile fwide fwprintf fwrite fwrite_unlocked fwscanf gai_strerror gcvt",
      "get_avphys_pages get_current_dir_name get_nprocs get_nprocs_conf get_phys_pages",
      "getaddrinfo getaliasbyname getaliasbyname_r getaliasent getaliasent_r getc",
      "getc_unlocked getchar getchar_unlocked getcontext getcwd getdate getdate_err getdate_r",
      "getdelim getdirentries getdirentries64 getdomainname getdtablesize getegid getenv",
      "geteuid getfsent getfsfile getfsspec getgid getgrent getgrent_r getgrgid getgrgid_r",
      "getgrnam getgrnam_r getgrouplist getgroups gethostbyaddr gethostbyaddr_r gethostbyname",
      "gethostbyname2 gethostbyname2_r gethostbyname_r gethostent gethostent_r gethostid",
      "gethostname getitimer getline getloadavg getlogin getlogin_r getmntent getmntent_r",
      "getnameinfo getnetbyaddr getnetbyaddr_r getnetbyname getnetbyname_r getnetent",
      "getnetent_r getnetgrent getnetgrent_r getopt getopt_long getopt_long_only getpagesize",
      "getpass getpeername getpgid getpgrp getpid getppid getpriority getprotobyname",
      "getprotobyname_r getprotobynumber getprotobynumber_r getprotoent getprotoent_r getpt",
      "getpw getpwent getpwent_r getpwnam getpwnam_r getpwuid getpwuid_r getresgid getresuid",
      "getrlimit getrlimit64 getrpcbyname getrpcbyname_r getrpcbynumber getrpcbynumber_r",
      "getrpcent getrpcent_r getrusage gets getservbyname getservbyname_r getservbyport",
      "getservbyport_r getservent getservent_r getsid getsockname getsockopt getspent",
      "getspent_r getspnam getspnam_r getsubopt gettext gettimeofday getttyent getttynam",
      "getuid getusershell getutent getutent_r getutid getutid_r getutline getutline_r getutmp",
      "getutmpx getutxent getutxid getutxline getw getwc getwc_unlocked getwchar",
      "getwchar_unlocked getwd glob_pattern_p globfree globfree64 gmtime gmtime_r",
      "gnu_get_libc_release gnu_get_libc_version grantpt group_member gsignal gtty h_errlist",
      "h_nerr hasmntopt hcreate hcreate_r hdestroy hdestroy_r herror hsearch hsearch_r",
      "hstrerror htonl htons iconv iconv_close iconv_open if_freenameindex if_indextoname",
      "if_nameindex if_nametoindex imaxabs imaxdiv in6addr_any in6addr_loopback index",
      "inet_addr inet_aton inet_lnaof inet_makeaddr inet_netof inet_network inet_nsap_addr",
      "inet_nsap_ntoa inet_ntoa inet_ntop inet_pton init_module initgroups initstate",
      "initstate_r innetgr insque ioctl ioperm iopl iruserok iruserok_af isalnum isalpha",
      "isascii isatty isblank iscntrl isdigit isfdtype isgraph isinf isinff isinfl islower",
      "isnan isnanf isnanl isprint ispunct isspace isupper iswalnum iswalpha iswblank iswcntrl",
      "iswctype iswdigit iswgraph iswlower iswprint iswpunct iswspace iswupper iswxdigit",
      "isxdigit jrand48 jrand48_r kill killpg klogctl l64a labs lchown lckpwdf lcong48",
      "lcong48_r ldexp ldexpf ldexpl ldiv lfind link listen llabs lldiv localeconv localtime",
      "localtime_r lockf lockf64 longjmp lrand48 lrand48_r lsearch lseek lseek64 madvise",
      "makecontext mallinfo malloc malloc_stats malloc_trim malloc_usable_size mallopt mblen",
      "mbrlen mbrtowc mbsinit mbsnrtowcs mbsrtowcs mbstowcs mbtowc mcheck mcheck_check_all",
      "mcheck_pedantic mcount memalign memccpy memchr memcmp memfrob memmem memmove mempcpy",
      "memrchr memset mincore mkdir mkdtemp mkfifo mkstemp mkstemp64 mktemp mktime mlock",
      "mlockall mmap mmap64 modf modff modfl modify_ldt moncontrol monstartup mount mprobe",
      "mprotect mrand48 mrand48_r mremap msgctl msgget msgrcv msgsnd msync mtrace munlock",
      "munlockall munmap muntrace nanosleep ngettext nice nl_langinfo nrand48 nrand48_r ntohl",
      "ntohs ntp_adjtime ntp_gettime obstack_alloc_failed_handler obstack_exit_failure",
      "obstack_free obstack_printf obstack_vprintf on_exit open open64 open_memstream opendir",
      "openlog optarg opterr optind optopt parse_printf_format pathconf pause pclose perror",
      "personality pipe pivot_root poll popen posix_fadvise posix_fadvise64 posix_fallocate",
      "posix_fallocate64 posix_madvise posix_memalign posix_openpt",
      "posix_spawn_file_actions_addclose posix_spawn_file_actions_adddup2",
      "posix_spawn_file_actions_addopen posix_spawn_file_actions_destroy",
      "posix_spawn_file_actions_init posix_spawnattr_destroy posix_spawnattr_getflags",
      "posix_spawnattr_getpgroup posix_spawnattr_getschedparam posix_spawnattr_getschedpolicy",
      "posix_spawnattr_getsigdefault posix_spawnattr_getsigmask posix_spawnattr_init",
      "posix_spawnattr_setflags posix_spawnattr_setpgroup posix_spawnattr_setschedparam",
      "posix_spawnattr_setschedpolicy posix_spawnattr_setsigdefault posix_spawnattr_setsigmask",
      "prctl pread pread64 printf printf_size printf_size_info profil program_invocation_name",
      "program_invocation_short_name pselect psignal pthread_attr_destroy",
      "pthread_attr_getdetachstate pthread_attr_getinheritsched pthread_attr_getschedparam",
      "pthread_attr_getschedpolicy pthread_attr_getscope pthread_attr_init",
      "pthread_attr_setdetachstate pthread_attr_setinheritsched pthread_attr_setschedparam",
      "pthread_attr_setschedpolicy pthread_attr_setscope pthread_condattr_destroy",
      "pthread_condattr_init pthread_equal pthread_exit pthread_getschedparam",
      "pthread_mutex_destroy pthread_mutex_init pthread_mutex_lock pthread_mutex_unlock",
      "pthread_self pthread_setcancelstate pthread_setcanceltype pthread_setschedparam ptrace",
      "ptsname ptsname_r putc putc_unlocked putchar putchar_unlocked putenv putgrent putpwent",
      "puts putspent pututline pututxline putw putwc putwc_unlocked putwchar putwchar_unlocked",
      "pvalloc pwrite pwrite64 qecvt qecvt_r qfcvt qfcvt_r qgcvt qsort quotactl raise rand",
      "rand_r random random_r rawmemchr rcmd rcmd_af re_comp re_compile_fastmap",
      "re_compile_pattern re_exec re_match re_match_2 re_max_failures re_search re_search_2",
      "re_set_registers re_set_syntax re_syntax_options read readdir readdir64 readdir64_r",
      "readdir_r readlink readv realloc reboot recv recvfrom recvmsg regcomp regerror regfree",
      "register_printf_function remove remque rename revoke rewind rewinddir rexec rexec_af",
      "rexecoptions rindex rmdir rpmatch rresvport rresvport_af ruserok ruserok_af ruserpass",
      "sbrk scalbn scalbnf scalbnl scandir scandir64 scanf sched_get_priority_max",
      "sched_get_priority_min sched_getparam sched_getscheduler sched_rr_get_interval",
      "sched_setparam sched_setscheduler sched_yield seed48 seed48_r seekdir select semctl",
      "semget semop send sendfile sendmsg sendto setaliasent setbuf setbuffer setcontext",
      "setdomainname setegid setenv seteuid setfsent setfsgid setfsuid setgid setgrent",
      "setgroups sethostent sethostid sethostname setitimer setjmp setlinebuf setlocale",
      "setlogin setlogmask setmntent setnetent setnetgrent setpgid setpgrp setpriority",
      "setprotoent setpwent setregid setresgid setresuid setreuid setrlimit setrlimit64",
      "setrpcent setservent setsid setsockopt setspent setstate setstate_r settimeofday",
      "setttyent setuid setusershell setutent setutxent setvbuf sgetspent sgetspent_r shmat",
      "shmctl shmdt shmget shutdown sigaction sigaddset sigaltstack sigandset sigblock",
      "sigdelset sigemptyset sigfillset siggetmask sighold sigignore siginterrupt",
      "sigisemptyset sigismember siglongjmp signal sigorset sigpause sigpending sigprocmask",
      "sigqueue sigrelse sigreturn sigset sigsetmask sigstack sigsuspend sigtimedwait sigwait",
      "sigwaitinfo sleep snprintf sockatmark socket socketpair sprintf sprofil srand srand48",
      "srand48_r srandom srandom_r sscanf ssignal statfs statfs64 statvfs statvfs64 stderr",
      "stdin stdout stpcpy stpncpy strcasecmp strcasestr strcat strchr strchrnul strcmp",
      "strcoll strcpy strcspn strdup strerror strerror_r strfmon strfry strftime strlen",
      "strncasecmp strncat strncmp strncpy strndup strnlen strpbrk strptime strrchr strsep",
      "strsignal strspn strstr strtod strtof strtoimax strtok strtok_r strtol strtold strtoll",
      "strtoq strtoul strtoull strtoumax strtouq strverscmp strxfrm stty swab swapcontext",
      "swapoff swapon swprintf swscanf symlink sync syscall sysconf sysinfo syslog system",
      "sysv_signal tcdrain tcflow tcflush tcgetattr tcgetpgrp tcgetsid tcsendbreak tcsetattr",
      "tcsetpgrp tdelete tdestroy telldir tempnam textdomain tfind time timegm timelocal times",
      "timezone tmpfile tmpfile64 tmpnam tmpnam_r toascii tolower toupper towctrans towlower",
      "towupper truncate truncate64 tsearch ttyname ttyname_r ttyslot twalk tzname tzset",
      "ualarm ulckpwdf ulimit umask umount umount2 uname ungetc ungetwc unlink unlockpt",
      "unsetenv updwtmp updwtmpx usleep utime utimes utmpname utmpxname valloc vasprintf",
      "vdprintf verr verrx versionsort versionsort64 vfork vfprintf vfscanf vfwprintf vfwscanf",
      "vhangup vlimit vprintf vscanf vsnprintf vsprintf vsscanf vswprintf vswscanf vsyslog",
      "vwarn vwarnx vwprintf vwscanf wait wait3 wait4 waitid waitpid warn warnx wcpcpy wcpncpy",
      "wcrtomb wcscasecmp wcscat wcschr wcschrnul wcscmp wcscoll wcscpy wcscspn wcsdup",
      "wcsftime wcslen wcsncasecmp wcsncat wcsncmp wcsncpy wcsnlen wcsnrtombs wcspbrk wcsrchr",
      "wcsrtombs wcsspn wcsstr wcstod wcstof wcstoimax wcstok wcstol wcstold wcstoll wcstombs",
      "wcstoq wcstoul wcstoull wcstoumax wcstouq wcswcs wcswidth wcsxfrm wctob wctomb wctrans",
      "wctype wcwidth wmemchr wmemcmp wmemcpy wmemmove wmempcpy wmemset wordexp wordfree",
      "wprintf write writev wscanf"]
    olderNames := words [
      "_IO_vfscanf __after_morecore_hook __ctype32_b __ctype32_tolower __ctype32_toupper",
      "__ctype_b __ctype_tolower __ctype_toupper __default_morecore __dn_comp __dn_expand",
      "__dn_skipname __free_hook __key_decryptsession_pk_LOCAL __key_encryptsession_pk_LOCAL",
      "__key_gendes_LOCAL __libc_start_main __malloc_hook __malloc_initialize_hook",
      "__memalign_hook __mempcpy_small __morecore __nss_database_lookup __nss_group_lookup",
      "__nss_hosts_lookup __nss_next __nss_passwd_lookup __pthread_getspecific",
      "__pthread_key_create __pthread_mutex_destroy __pthread_mutex_init __pthread_mutex_lock",
      "__pthread_mutex_trylock __pthread_mutex_unlock __pthread_mutexattr_destroy",
      "__pthread_mutexattr_init __pthread_mutexattr_settype __pthread_once",
      "__pthread_rwlock_destroy __pthread_rwlock_init __pthread_rwlock_rdlock",
      "__pthread_rwlock_tryrdlock __pthread_rwlock_trywrlock __pthread_rwlock_unlock",
      "__pthread_rwlock_wrlock __pthread_setspecific __realloc_hook __res_dnok __res_hnok",
      "__res_mailok __res_mkquery __res_nmkquery __res_nquery __res_nquerydomain __res_nsearch",
      "__res_nsend __res_ownok __res_query __res_querydomain __res_search __res_send",
      "__rpc_thread_createerr __rpc_thread_svc_fdset __rpc_thread_svc_max_pollfd",
      "__rpc_thread_svc_pollfd __secure_getenv __sigaddset __sigdelset __sigismember",
      "__stpcpy_small __strcpy_small __strcspn_c1 __strcspn_c2 __strcspn_c3 __strpbrk_c2",
      "__strpbrk_c3 __strsep_1c __strsep_2c __strsep_3c __strspn_c1 __strspn_c2 __strspn_c3",
      "__strtok_r_1c __sysctl _authenticate _null_auth _obstack _pthread_cleanup_pop",
      "_pthread_cleanup_pop_restore _pthread_cleanup_push _pthread_cleanup_push_defer _res",
      "_rpc_dtablesize _seterr_reply _sys_errlist _sys_nerr _sys_siglist advance aio_cancel",
      "aio_cancel64 aio_error aio_error64 aio_fsync aio_fsync64 aio_init aio_read aio_read64",
      "aio_return aio_return64 aio_suspend aio_suspend64 aio_write aio_write64 authdes_create",
      "authdes_getucred authdes_pk_create authnone_create authunix_create",
      "authunix_create_default bdflush callrpc cbc_crypt cfree clnt_broadcast clnt_create",
      "clnt_pcreateerror clnt_perrno clnt_perror clnt_spcreateerror clnt_sperrno clnt_sperror",
      "clntraw_create clnttcp_create clntudp_bufcreate clntudp_create clntunix_create",
      "clock_getcpuclockid clock_getres clock_gettime clock_nanosleep clock_settime",
      "create_module des_setparity dladdr dlclose dlerror dlopen dlsym dlvsym ecb_crypt",
      "fattach fdetach fmemopen forkpty gai_cancel gai_error gai_suspend get_kernel_syms",
      "get_myaddress getaddrinfo_a getmsg getnetname getpmsg getpublickey getrpcport",
      "getsecretkey glob glob64 host2netname isastream key_decryptsession",
      "key_decryptsession_pk key_encryptsession key_encryptsession_pk key_gendes key_get_conv",
      "key_secretkey_is_set key_setnet key_setsecret lio_listio lio_listio64 llseek loc1 loc2",
      "locs login login_tty logout logwtmp mallwatch memcpy netname2host netname2user",
      "nfsservctl nftw nftw64 openpty passwd2des pmap_getmaps pmap_getport pmap_rmtcall",
      "pmap_set pmap_unset posix_spawn posix_spawnp pthread_atfork pthread_attr_getguardsize",
      "pthread_attr_getstack pthread_attr_getstackaddr pthread_attr_getstacksize",
      "pthread_attr_setguardsize pthread_attr_setstack pthread_attr_setstackaddr",
      "pthread_attr_setstacksize pthread_barrier_destroy pthread_barrier_init",
      "pthread_barrier_wait pthread_barrierattr_destroy pthread_barrierattr_init",
      "pthread_barrierattr_setpshared pthread_cancel pthread_cond_broadcast",
      "pthread_cond_destroy pthread_cond_init pthread_cond_signal pthread_cond_timedwait",
      "pthread_cond_wait pthread_condattr_getpshared pthread_condattr_setpshared",
      "pthread_create pthread_detach pthread_getattr_np pthread_getconcurrency",
      "pthread_getcpuclockid pthread_getspecific pthread_join pthread_key_create",
      "pthread_key_delete pthread_kill pthread_kill_other_threads_np pthread_mutex_timedlock",
      "pthread_mutex_trylock pthread_mutexattr_destroy pthread_mutexattr_getkind_np",
      "pthread_mutexattr_getpshared pthread_mutexattr_gettype pthread_mutexattr_init",
      "pthread_mutexattr_setkind_np pthread_mutexattr_setpshared pthread_mutexattr_settype",
      "pthread_once pthread_rwlock_destroy pthread_rwlock_init pthread_rwlock_rdlock",
      "pthread_rwlock_timedrdlock pthread_rwlock_timedwrlock pthread_rwlock_tryrdlock",
      "pthread_rwlock_trywrlock pthread_rwlock_unlock pthread_rwlock_wrlock",
      "pthread_rwlockattr_destroy pthread_rwlockattr_getkind_np pthread_rwlockattr_getpshared",
      "pthread_rwlockattr_init pthread_rwlockattr_setkind_np pthread_rwlockattr_setpshared",
      "pthread_setconcurrency pthread_setspecific pthread_sigmask pthread_spin_destroy",
      "pthread_spin_init pthread_spin_lock pthread_spin_trylock pthread_spin_unlock",
      "pthread_testcancel pthread_yield putmsg putpmsg query_module realpath regexec",
      "registerrpc rpc_createerr rtime sem_close sem_destroy sem_getvalue sem_init sem_open",
      "sem_post sem_timedwait sem_trywait sem_unlink sem_wait shm_open shm_unlink sigvec sstk",
      "step stime svc_exit svc_fdset svc_getreq svc_getreq_common svc_getreq_poll",
      "svc_getreqset svc_max_pollfd svc_pollfd svc_register svc_run svc_sendreply",
      "svc_unregister svcauthdes_stats svcerr_auth svcerr_decode svcerr_noproc svcerr_noprog",
      "svcerr_progvers svcerr_systemerr svcerr_weakauth svcfd_create svcraw_create",
      "svctcp_create svcudp_bufcreate svcudp_create svcudp_enablecache svcunix_create",
      "svcunixfd_create sys_errlist sys_nerr sys_sigabbrev sys_siglist sysctl timer_create",
      "timer_delete timer_getoverrun timer_gettime timer_settime tr_break uselib user2netname",
      "ustat vtimes xdecrypt xdr_accepted_reply xdr_array xdr_authdes_cred xdr_authdes_verf",
      "xdr_authunix_parms xdr_bool xdr_bytes xdr_callhdr xdr_callmsg xdr_char xdr_cryptkeyarg",
      "xdr_cryptkeyarg2 xdr_cryptkeyres xdr_des_block xdr_double xdr_enum xdr_float xdr_free",
      "xdr_getcredres xdr_hyper xdr_int xdr_int16_t xdr_int32_t xdr_int64_t xdr_int8_t",
      "xdr_key_netstarg xdr_key_netstres xdr_keybuf xdr_keystatus xdr_long xdr_longlong_t",
      "xdr_netnamestr xdr_netobj xdr_opaque xdr_opaque_auth xdr_pmap xdr_pmaplist xdr_pointer",
      "xdr_reference xdr_rejected_reply xdr_replymsg xdr_rmtcall_args xdr_rmtcallres xdr_short",
      "xdr_sizeof xdr_string xdr_u_char xdr_u_hyper xdr_u_int xdr_u_long xdr_u_longlong_t",
      "xdr_u_short xdr_uint16_t xdr_uint32_t xdr_uint64_t xdr_uint8_t xdr_union xdr_unixcred",
      "xdr_vector xdr_void xdr_wrapstring xdrmem_create xdrrec_create xdrrec_endofrecord",
      "xdrrec_eof xdrrec_skiprecord xdrstdio_create xencrypt xprt_register xprt_unregister"] },
  { version := "GLIBC_2.2.6"
    names := words ["__nanosleep"] },
  { version := "GLIBC_2.3"
    names := words [
      "__ctype_b_loc __ctype_tolower_loc __ctype_toupper_loc __isctype __strftime_l",
      "__uselocale __wcsftime_l duplocale fgetxattr flistxattr freeifaddrs freelocale",
      "fremovexattr fsetxattr futimes getifaddrs getxattr isalnum_l isalpha_l isblank_l",
      "iscntrl_l isctype isdigit_l isgraph_l islower_l isprint_l ispunct_l isspace_l isupper_l",
      "iswalnum_l iswalpha_l iswblank_l iswcntrl_l iswctype_l iswdigit_l iswgraph_l iswlower_l",
      "iswprint_l iswpunct_l iswspace_l iswupper_l iswxdigit_l isxdigit_l lgetxattr listxattr",
      "llistxattr lremovexattr lsetxattr lutimes newlocale nl_langinfo_l readahead realpath",
      "removexattr sendfile64 setxattr strcasecmp_l strcoll_l strfmon_l strftime_l",
      "strncasecmp_l strtod_l strtof_l strtol_l strtold_l strtoul_l strxfrm_l tolower_l",
      "toupper_l towctrans_l towlower_l towupper_l uselocale wcscasecmp_l wcscoll_l wcsftime_l",
      "wcsncasecmp_l wcstod_l wcstof_l wcstol_l wcstold_l wcstoll_l wcstoul_l wcstoull_l",
      "wcsxfrm_l wctrans_l wctype_l"]
    olderNames := words ["_sys_errlist _sys_nerr sys_errlist sys_nerr"] },
  { version := "GLIBC_2.3.2"
    names := words [
      "__register_atfork epoll_create epoll_ctl epoll_wait lchmod pthread_cond_broadcast",
      "pthread_cond_destroy pthread_cond_init pthread_cond_signal pthread_cond_timedwait",
      "pthread_cond_wait strptime_l"] },
  { version := "GLIBC_2.3.3"
    names := words [
      "gnu_dev_major gnu_dev_makedev gnu_dev_minor inet6_option_alloc inet6_option_append",
      "inet6_option_find inet6_option_init inet6_option_next inet6_option_space nftw nftw64",
      "remap_file_pages semtimedop strtoll_l strtoull_l"]
    olderNames := words [
      "__pthread_cleanup_routine __pthread_register_cancel __pthread_register_cancel_defer",
      "__pthread_unregister_cancel __pthread_unregister_cancel_restore __pthread_unwind_next",
      "_sys_siglist dladdr1 dlinfo pthread_attr_getaffinity_np pthread_attr_setaffinity_np",
      "pthread_barrierattr_getpshared pthread_condattr_getclock pthread_condattr_setclock",
      "pthread_getaffinity_np pthread_setaffinity_np pthread_timedjoin_np pthread_tryjoin_np",
      "sched_getaffinity sched_setaffinity sys_sigabbrev sys_siglist timer_create timer_delete",
      "timer_getoverrun timer_gettime timer_settime"] },
  { version := "GLIBC_2.3.4"
    names := words [
      "__chk_fail __fprintf_chk __gets_chk __memcpy_chk __memmove_chk __mempcpy_chk",
      "__memset_chk __printf_chk __snprintf_chk __sprintf_chk __stpcpy_chk __strcat_chk",
      "__strcpy_chk __strncat_chk __strncpy_chk __vfprintf_chk __vprintf_chk __vsnprintf_chk",
      "__vsprintf_chk __xpg_strerror_r getipv4sourcefilter getsourcefilter regexec",
      "sched_getaffinity sched_setaffinity setipv4sourcefilter setsourcefilter"]
    olderNames := words [
      "dlmopen mq_close mq_getattr mq_notify mq_open mq_receive mq_send mq_setattr",
      "mq_timedreceive mq_timedsend mq_unlink pthread_attr_getaffinity_np",
      "pthread_attr_setaffinity_np pthread_getaffinity_np pthread_setaffinity_np",
      "pthread_setschedprio xdr_quad_t xdr_u_quad_t"] },
  { version := "GLIBC_2.4"
    names := words [
      "__confstr_chk __fgets_chk __fgets_unlocked_chk __fgetws_chk __fgetws_unlocked_chk",
      "__fwprintf_chk __fxstatat __fxstatat64 __getcwd_chk __getdomainname_chk __getgroups_chk",
      "__gethostname_chk __getlogin_r_chk __getwd_chk __mbsnrtowcs_chk __mbsrtowcs_chk",
      "__mbstowcs_chk __pread64_chk __pread_chk __ptsname_r_chk __read_chk __readlink_chk",
      "__realpath_chk __recv_chk __recvfrom_chk __stack_chk_fail __stpncpy_chk __swprintf_chk",
      "__syslog_chk __ttyname_r_chk __vfwprintf_chk __vswprintf_chk __vsyslog_chk",
      "__vwprintf_chk __wcpcpy_chk __wcpncpy_chk __wcrtomb_chk __wcscat_chk __wcscpy_chk",
      "__wcsncat_chk __wcsncpy_chk __wcsnrtombs_chk __wcsrtombs_chk __wcstombs_chk",
      "__wctomb_chk __wmemcpy_chk __wmemmove_chk __wmempcpy_chk __wmemset_chk __wprintf_chk",
      "__xmknodat eaccess faccessat fchmodat fchownat fdopendir futimesat inotify_add_watch",
      "inotify_init inotify_rm_watch linkat mkdirat mkfifoat open_wmemstream openat openat64",
      "ppoll readlinkat renameat symlinkat unlinkat unshare"]
    olderNames := words [
      "_sys_errlist _sys_nerr lio_listio lio_listio64 pthread_mutex_consistent_np",
      "pthread_mutex_getprioceiling pthread_mutex_setprioceiling",
      "pthread_mutexattr_getprioceiling pthread_mutexattr_getprotocol",
      "pthread_mutexattr_getrobust_np pthread_mutexattr_setprioceiling",
      "pthread_mutexattr_setprotocol pthread_mutexattr_setrobust_np sys_errlist sys_nerr"] },
  { version := "GLIBC_2.5"
    names := words [
      "__readlinkat_chk inet6_opt_append inet6_opt_find inet6_opt_finish inet6_opt_get_val",
      "inet6_opt_init inet6_opt_next inet6_opt_set_val inet6_rth_add inet6_rth_getaddr",
      "inet6_rth_init inet6_rth_reverse inet6_rth_segments inet6_rth_space splice tee vmsplice"] },
  { version := "GLIBC_2.6"
    names := words [
      "__sched_cpucount epoll_pwait futimens sched_getcpu strerror_l sync_file_range utimensat"] },
  { version := "GLIBC_2.7"
    names := words [
      "__fread_chk __fread_unlocked_chk __isoc99_fscanf __isoc99_fwscanf __isoc99_scanf",
      "__isoc99_sscanf __isoc99_swscanf __isoc99_vfscanf __isoc99_vfwscanf __isoc99_vscanf",
      "__isoc99_vsscanf __isoc99_vswscanf __isoc99_vwscanf __isoc99_wscanf __open64_2 __open_2",
      "__openat64_2 __openat_2 __sched_cpualloc __sched_cpufree eventfd eventfd_read",
      "eventfd_write mkostemp mkostemp64 signalfd"]
    olderNames := words ["__mq_open_2"] },
  { version := "GLIBC_2.8"
    names := words [
      "__asprintf_chk __dprintf_chk __obstack_printf_chk __obstack_vprintf_chk __vasprintf_chk",
      "__vdprintf_chk qsort_r timerfd_create timerfd_gettime timerfd_settime"] },
  { version := "GLIBC_2.9"
    names := words ["dup3 epoll_create1 inotify_init1 pipe2"]
    olderNames := words [
      "ns_name_compress ns_name_ntop ns_name_pack ns_name_pton ns_name_skip ns_name_uncompress",
      "ns_name_unpack"] },
  { version := "GLIBC_2.10"
    names := words [
      "__cxa_at_quick_exit __posix_getopt accept4 endsgent fallocate fallocate64 fgetsgent",
      "fgetsgent_r getsgent getsgent_r getsgnam getsgnam_r malloc_info preadv preadv64",
      "psiginfo putsgent pwritev pwritev64 register_printf_modifier register_printf_specifier",
      "register_printf_type setsgent sgetsgent sgetsgent_r"]
    olderNames := words ["quick_exit"] },
  { version := "GLIBC_2.11"
    names := words ["__longjmp_chk execvpe mkostemps mkostemps64 mkstemps mkstemps64"]
    olderNames := words ["pthread_sigqueue"] },
  { version := "GLIBC_2.12"
    names := words ["ntp_gettimex recvmmsg"]
    olderNames := words [
      "_sys_errlist _sys_nerr pthread_getname_np pthread_mutex_consistent",
      "pthread_mutexattr_getrobust pthread_mutexattr_setrobust pthread_setname_np sys_errlist",
      "sys_nerr"] },
  { version := "GLIBC_2.13"
    names := words ["__fentry__ fanotify_init fanotify_mark prlimit prlimit64"] },
  { version := "GLIBC_2.14"
    names := words [
      "clock_adjtime memcpy name_to_handle_at open_by_handle_at sendmmsg setns syncfs"] },
  { version := "GLIBC_2.15"
    names := words [
      "__fdelt_chk __fdelt_warn posix_spawn posix_spawnp process_vm_readv process_vm_writev",
      "scandirat scandirat64"] },
  { version := "GLIBC_2.16"
    names := words [
      "__getauxval __poll_chk __ppoll_chk aligned_alloc c16rtomb c32rtomb getauxval mbrtoc16",
      "mbrtoc32 timespec_get"] },
  { version := "GLIBC_2.17"
    names := words [
      "clock_getcpuclockid clock_getres clock_gettime clock_nanosleep clock_settime",
      "secure_getenv"] },
  { version := "GLIBC_2.18"
    names := words ["__cxa_thread_atexit_impl"]
    olderNames := words ["pthread_getattr_default_np pthread_setattr_default_np"] },
  { version := "GLIBC_2.22"
    names := words ["fmemopen"] },
  { version := "GLIBC_2.23"
    names := words ["fts64_children fts64_close fts64_open fts64_read fts64_set"] },
  { version := "GLIBC_2.24"
    names := words ["quick_exit"] },
  { version := "GLIBC_2.25"
    names := words [
      "__explicit_bzero_chk explicit_bzero getentropy getrandom strfromd strfromf strfroml"] },
  { version := "GLIBC_2.26"
    names := words [
      "__strtof128_internal __wcstof128_internal preadv2 preadv64v2 pwritev2 pwritev64v2",
      "reallocarray strfromf128 strtof128 strtof128_l wcstof128 wcstof128_l"]
    olderNames := words ["__isnanf128"] },
  { version := "GLIBC_2.27"
    names := words [
      "copy_file_range glob glob64 memfd_create mlock2 pkey_alloc pkey_free pkey_get",
      "pkey_mprotect pkey_set strfromf32 strfromf32x strfromf64 strfromf64x strtof32",
      "strtof32_l strtof32x strtof32x_l strtof64 strtof64_l strtof64x strtof64x_l wcstof32",
      "wcstof32_l wcstof32x wcstof32x_l wcstof64 wcstof64_l wcstof64x wcstof64x_l"] },
  { version := "GLIBC_2.28"
    names := words ["fcntl64 renameat2 statx thrd_current thrd_equal thrd_sleep thrd_yield"]
    olderNames := words [
      "call_once cnd_broadcast cnd_destroy cnd_init cnd_signal cnd_timedwait cnd_wait",
      "mtx_destroy mtx_init mtx_lock mtx_timedlock mtx_trylock mtx_unlock thrd_create",
      "thrd_detach thrd_exit thrd_join tss_create tss_delete tss_get tss_set"] },
  { version := "GLIBC_2.29"
    names := words [
      "getcpu posix_spawn_file_actions_addchdir_np posix_spawn_file_actions_addfchdir_np"] },
  { version := "GLIBC_2.30"
    names := words ["getdents64 gettid tgkill twalk_r"]
    olderNames := words [
      "pthread_cond_clockwait pthread_mutex_clocklock pthread_rwlock_clockrdlock",
      "pthread_rwlock_clockwrlock sem_clockwait"] },
  { version := "GLIBC_2.31"
    olderNames := words ["pthread_clockjoin_np"] },
  { version := "GLIBC_2.32"
    names := words [
      "__libc_single_threaded pthread_attr_getsigmask_np pthread_attr_setaffinity_np",
      "pthread_attr_setsigmask_np pthread_getaffinity_np pthread_getattr_np pthread_sigmask",
      "sigabbrev_np sigdescr_np strerrordesc_np strerrorname_np"] },
  { version := "GLIBC_2.33"
    names := words [
      "__x86_get_cpuid_feature_leaf fstat fstat64 fstatat fstatat64 lstat lstat64 mallinfo2",
      "mknod mknodat stat stat64"] },
  { version := "GLIBC_2.34"
    names := words [
      "_Fork __isnanf128 __libc_start_main __mq_open_2 __pthread_cleanup_routine",
      "__pthread_key_create __pthread_register_cancel __pthread_register_cancel_defer",
      "__pthread_unregister_cancel __pthread_unregister_cancel_restore __pthread_unwind_next",
      "_pthread_cleanup_pop _pthread_cleanup_push aio_cancel aio_cancel64 aio_error",
      "aio_error64 aio_fsync aio_fsync64 aio_init aio_read aio_read64 aio_return aio_return64",
      "aio_suspend aio_suspend64 aio_write aio_write64 call_once close_range closefrom",
      "cnd_broadcast cnd_destroy cnd_init cnd_signal cnd_timedwait cnd_wait dladdr dladdr1",
      "dlclose dlerror dlinfo dlmopen dlopen dlsym dlvsym dn_comp dn_expand dn_skipname",
      "execveat forkpty gai_cancel gai_error gai_suspend getaddrinfo_a lio_listio lio_listio64",
      "login login_tty logout logwtmp mq_close mq_getattr mq_notify mq_open mq_receive mq_send",
      "mq_setattr mq_timedreceive mq_timedsend mq_unlink mtx_destroy mtx_init mtx_lock",
      "mtx_timedlock mtx_trylock mtx_unlock ns_name_compress ns_name_ntop ns_name_pack",
      "ns_name_pton ns_name_skip ns_name_uncompress ns_name_unpack openpty",
      "posix_spawn_file_actions_addclosefrom_np pthread_attr_getaffinity_np",
      "pthread_attr_getguardsize pthread_attr_getstack pthread_attr_getstackaddr",
      "pthread_attr_getstacksize pthread_attr_setguardsize pthread_attr_setstack",
      "pthread_attr_setstackaddr pthread_attr_setstacksize pthread_barrier_destroy",
      "pthread_barrier_init pthread_barrier_wait pthread_barrierattr_destroy",
      "pthread_barrierattr_getpshared pthread_barrierattr_init pthread_barrierattr_setpshared",
      "pthread_cancel pthread_clockjoin_np pthread_cond_clockwait pthread_condattr_getclock",
      "pthread_condattr_getpshared pthread_condattr_setclock pthread_condattr_setpshared",
      "pthread_create pthread_detach pthread_getattr_default_np pthread_getconcurrency",
      "pthread_getcpuclockid pthread_getname_np pthread_getspecific pthread_join",
      "pthread_key_create pthread_key_delete pthread_kill pthread_mutex_clocklock",
      "pthread_mutex_consistent pthread_mutex_getprioceiling pthread_mutex_setprioceiling",
      "pthread_mutex_timedlock pthread_mutex_trylock pthread_mutexattr_destroy",
      "pthread_mutexattr_getprioceiling pthread_mutexattr_getprotocol",
      "pthread_mutexattr_getpshared pthread_mutexattr_getrobust pthread_mutexattr_gettype",
      "pthread_mutexattr_init pthread_mutexattr_setprioceiling pthread_mutexattr_setprotocol",
      "pthread_mutexattr_setpshared pthread_mutexattr_setrobust pthread_mutexattr_settype",
      "pthread_once pthread_rwlock_clockrdlock pthread_rwlock_clockwrlock",
      "pthread_rwlock_destroy pthread_rwlock_init pthread_rwlock_rdlock",
      "pthread_rwlock_timedrdlock pthread_rwlock_timedwrlock pthread_rwlock_tryrdlock",
      "pthread_rwlock_trywrlock pthread_rwlock_unlock pthread_rwlock_wrlock",
      "pthread_rwlockattr_destroy pthread_rwlockattr_getkind_np pthread_rwlockattr_getpshared",
      "pthread_rwlockattr_init pthread_rwlockattr_setkind_np pthread_rwlockattr_setpshared",
      "pthread_setaffinity_np pthread_setattr_default_np pthread_setconcurrency",
      "pthread_setname_np pthread_setschedprio pthread_setspecific pthread_sigqueue",
      "pthread_spin_destroy pthread_spin_init pthread_spin_lock pthread_spin_trylock",
      "pthread_spin_unlock pthread_testcancel pthread_timedjoin_np pthread_tryjoin_np res_dnok",
      "res_hnok res_mailok res_mkquery res_nmkquery res_nquery res_nquerydomain res_nsearch",
      "res_nsend res_ownok res_query res_querydomain res_search res_send sem_clockwait",
      "sem_close sem_destroy sem_getvalue sem_init sem_open sem_post sem_timedwait sem_trywait",
      "sem_unlink sem_wait shm_open shm_unlink thrd_create thrd_detach thrd_exit thrd_join",
      "timer_create timer_delete timer_getoverrun timer_gettime timer_settime timespec_getres",
      "tss_create tss_delete tss_get tss_set"] },
  { version := "GLIBC_2.35"
    names := words [
      "__memcmpeq _dl_find_object epoll_pwait2 posix_spawn_file_actions_addtcsetpgrp_np"] },
  { version := "GLIBC_2.36"
    names := words [
      "arc4random arc4random_buf arc4random_uniform c8rtomb fsconfig fsmount fsopen fspick",
      "mbrtoc8 mount_setattr move_mount open_tree pidfd_getfd pidfd_open pidfd_send_signal",
      "process_madvise process_mrelease"] },
  { version := "GLIBC_ABI_DT_RELR" },
  { version := "GLIBC_PRIVATE"
    names := words [
      "_IO_enable_locks __abort_msg __call_tls_dtors __clock_gettime __close_nocancel",
      "__copy_grp __ctype_init __file_change_detection_for_fp __file_change_detection_for_path",
      "__file_change_detection_for_stat __file_is_unchanged __fortify_fail __fseeko64",
      "__fstat64 __ftello64 __gconv_create_spec __gconv_destroy_spec __gconv_get_alias_db",
      "__gconv_get_cache __gconv_get_modules_db __gconv_open __gconv_transliterate __getrlimit",
      "__h_errno __idna_from_dns_encoding __idna_to_dns_encoding __inet6_scopeid_pton",
      "__inet_aton_exact __inet_pton_length __internal_endnetgrent __internal_getnetgrent_r",
      "__internal_setnetgrent __libc_alloc_buffer_alloc_array __libc_alloc_buffer_allocate",
      "__libc_alloc_buffer_copy_bytes __libc_alloc_buffer_copy_string",
      "__libc_alloc_buffer_create_failure __libc_alloca_cutoff __libc_allocate_once_slow",
      "__libc_dlerror_result __libc_dn_expand __libc_dn_skipname __libc_dynarray_at_failure",
      "__libc_dynarray_emplace_enlarge __libc_dynarray_finalize __libc_dynarray_resize",
      "__libc_dynarray_resize_clear __libc_early_init __libc_fatal __libc_fcntl64 __libc_fork",
      "__libc_ifunc_impl_list __libc_msgrcv __libc_msgsnd __libc_ns_makecanon",
      "__libc_ns_samename __libc_pread __libc_pwrite __libc_reallocarray __libc_res_dnok",
      "__libc_res_hnok __libc_res_nameinquery __libc_res_queriesmatch",
      "__libc_scratch_buffer_dupfree __libc_scratch_buffer_grow",
      "__libc_scratch_buffer_grow_preserve __libc_scratch_buffer_set_array_size",
      "__libc_secure_getenv __libc_sigaction __libc_system __libc_unwind_link_get",
      "__lll_lock_wait_private __lll_lock_wake_private __madvise __merge_grp __mktemp __mmap",
      "__mprotect __munmap __netlink_assert_response __nptl_create_event __nptl_death_event",
      "__nptl_last_event __nptl_nthreads __nptl_rtld_global __nptl_threads_events",
      "__nptl_version __ns_name_compress __ns_name_ntop __ns_name_pack __ns_name_pton",
      "__ns_name_skip __ns_name_uncompress __ns_name_unpack __nss_database_get",
      "__nss_disable_nscd __nss_files_data_endent __nss_files_data_open __nss_files_data_put",
      "__nss_files_data_setent __nss_files_fopen __nss_group_lookup2 __nss_hash",
      "__nss_hosts_lookup2 __nss_lookup __nss_lookup_function __nss_next2",
      "__nss_parse_line_result __nss_passwd_lookup2 __nss_readline __nss_services_lookup2",
      "__open64_nocancel __open_catalog __open_nocancel __pread64_nocancel",
      "__pthread_get_minstack __pthread_keys __read_nocancel __recv __res_context_hostalias",
      "__res_context_mkquery __res_context_query __res_context_search __res_context_send",
      "__res_get_nsaddr __res_iclose __res_nopt __resolv_context_get",
      "__resolv_context_get_override __resolv_context_get_preinit __resolv_context_put __resp",
      "__sendmmsg __shm_get_name __sigtimedwait __snprintf __socket __strtod_nan",
      "__strtof128_nan __strtof_nan __strtold_nan __tdelete __tfind __tsearch __twalk",
      "__twalk_r __write_nocancel _dl_catch_error _itoa_lower_digits _nss_dns_getcanonname_r",
      "_nss_dns_gethostbyaddr2_r _nss_dns_gethostbyaddr_r _nss_dns_gethostbyname2_r",
      "_nss_dns_gethostbyname3_r _nss_dns_gethostbyname4_r _nss_dns_gethostbyname_r",
      "_nss_dns_getnetbyaddr_r _nss_dns_getnetbyname_r _nss_files_endaliasent",
      "_nss_files_endetherent _nss_files_endgrent _nss_files_endhostent _nss_files_endnetent",
      "_nss_files_endnetgrent _nss_files_endprotoent _nss_files_endpwent _nss_files_endrpcent",
      "_nss_files_endservent _nss_files_endsgent _nss_files_endspent",
      "_nss_files_getaliasbyname_r _nss_files_getaliasent_r _nss_files_getetherent_r",
      "_nss_files_getgrent_r _nss_files_getgrgid_r _nss_files_getgrnam_r",
      "_nss_files_gethostbyaddr_r _nss_files_gethostbyname2_r _nss_files_gethostbyname3_r",
      "_nss_files_gethostbyname4_r _nss_files_gethostbyname_r _nss_files_gethostent_r",
      "_nss_files_gethostton_r _nss_files_getnetbyaddr_r _nss_files_getnetbyname_r",
      "_nss_files_getnetent_r _nss_files_getnetgrent_r _nss_files_getntohost_r",
      "_nss_files_getprotobyname_r _nss_files_getprotobynumber_r _nss_files_getprotoent_r",
      "_nss_files_getpwent_r _nss_files_getpwnam_r _nss_files_getpwuid_r",
      "_nss_files_getrpcbyname_r _nss_files_getrpcbynumber_r _nss_files_getrpcent_r",
      "_nss_files_getservbyname_r _nss_files_getservbyport_r _nss_files_getservent_r",
      "_nss_files_getsgent_r _nss_files_getsgnam_r _nss_files_getspent_r _nss_files_getspnam_r",
      "_nss_files_init _nss_files_initgroups_dyn _nss_files_parse_etherent",
      "_nss_files_parse_grent _nss_files_parse_netent _nss_files_parse_protoent",
      "_nss_files_parse_pwent _nss_files_parse_rpcent _nss_files_parse_servent",
      "_nss_files_parse_sgent _nss_files_parse_spent _nss_files_setaliasent",
      "_nss_files_setetherent _nss_files_setgrent _nss_files_sethostent _nss_files_setnetent",
      "_nss_files_setnetgrent _nss_files_setprotoent _nss_files_setpwent _nss_files_setrpcent",
      "_nss_files_setservent _nss_files_setsgent _nss_files_setspent _nss_netgroup_parseline",
      "_thread_db___nptl_last_event _thread_db___nptl_nthreads _thread_db___nptl_rtld_global",
      "_thread_db___pthread_keys _thread_db_const_thread_area _thread_db_dtv_dtv",
      "_thread_db_dtv_slotinfo_gen _thread_db_dtv_slotinfo_list_len",
      "_thread_db_dtv_slotinfo_list_next _thread_db_dtv_slotinfo_list_slotinfo",
      "_thread_db_dtv_slotinfo_map _thread_db_dtv_t_counter _thread_db_dtv_t_pointer_val",
      "_thread_db_link_map_l_tls_modid _thread_db_link_map_l_tls_offset _thread_db_list_t_next",
      "_thread_db_list_t_prev _thread_db_pthread_cancelhandling _thread_db_pthread_dtvp",
      "_thread_db_pthread_eventbuf _thread_db_pthread_eventbuf_eventmask",
      "_thread_db_pthread_eventbuf_eventmask_event_bits _thread_db_pthread_key_data_data",
      "_thread_db_pthread_key_data_level2_data _thread_db_pthread_key_data_seq",
      "_thread_db_pthread_key_struct_destr _thread_db_pthread_key_struct_seq",
      "_thread_db_pthread_list _thread_db_pthread_nextevent _thread_db_pthread_report_events",
      "_thread_db_pthread_schedparam_sched_priority _thread_db_pthread_schedpolicy",
      "_thread_db_pthread_specific _thread_db_pthread_start_routine _thread_db_pthread_tid",
      "_thread_db_rtld_global__dl_stack_used _thread_db_rtld_global__dl_stack_user",
      "_thread_db_rtld_global__dl_tls_dtv_slotinfo_list _thread_db_sizeof_dtv_slotinfo",
      "_thread_db_sizeof_dtv_slotinfo_list _thread_db_sizeof_list_t _thread_db_sizeof_pthread",
      "_thread_db_sizeof_pthread_key_data _thread_db_sizeof_pthread_key_data_level2",
      "_thread_db_sizeof_pthread_key_struct _thread_db_sizeof_td_eventbuf_t",
      "_thread_db_sizeof_td_thr_events_t _thread_db_td_eventbuf_t_eventdata",
      "_thread_db_td_eventbuf_t_eventnum _thread_db_td_thr_events_t_event_bits errno"]
    olderNames := words ["__libc_clntudp_bufcreate __libc_rpc_getport"] }]

end GuestBridge.Posix.SystemLibrary
