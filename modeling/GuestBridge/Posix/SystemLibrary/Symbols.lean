import GuestBridge.Posix.SystemLibrary.NameFamily

/-!
The symbols of the system's other libraries. Where a library has versions, they are sorted by the
versions that they came with.
-/
namespace GuestBridge.Posix.SystemLibrary

def loaderSymbols : List VersionedNames := [
  { version := "GLIBC_2.2.5"
    names := words ["__libc_stack_end _dl_mcount _r_debug"] },
  { version := "GLIBC_2.3"
    names := words ["__tls_get_addr"] },
  { version := "GLIBC_2.4" },
  { version := "GLIBC_2.34"
    olderNames := words ["__rtld_version_placeholder"] },
  { version := "GLIBC_2.35"
    names := words ["__rseq_flags __rseq_offset __rseq_size"] },
  { version := "GLIBC_PRIVATE"
    names := words [
      "__libc_enable_secure __nptl_change_stack_perm __nptl_initial_report_events",
      "__tunable_get_val __tunable_is_initialized _dl_allocate_tls _dl_allocate_tls_init",
      "_dl_argv _dl_audit_preinit _dl_audit_symbind_alt _dl_catch_exception _dl_deallocate_tls",
      "_dl_debug_state _dl_exception_create _dl_exception_create_format _dl_exception_free",
      "_dl_fatal_printf _dl_find_dso_for_object _dl_get_tls_static_info _dl_rtld_di_serinfo",
      "_dl_signal_error _dl_signal_exception _dl_x86_get_cpu_features _rtld_global",
      "_rtld_global_ro"] }]

def mathSymbols : List VersionedNames := [
  { version := "GLIBC_2.2.5"
    names := words [
      "__clog10 __clog10f __clog10l __finite __finitef __finitel __fpclassify __fpclassifyf",
      "__fpclassifyl __signbit __signbitf __signbitl acos acosf acosh acoshf acoshl acosl asin",
      "asinf asinh asinhf asinhl asinl atan atan2 atan2f atan2l atanf atanh atanhf atanhl",
      "atanl cabs cabsf cabsl cacos cacosf cacosh cacoshf cacoshl cacosl carg cargf cargl",
      "casin casinf casinh casinhf casinhl casinl catan catanf catanh catanhf catanhl catanl",
      "cbrt cbrtf cbrtl ccos ccosf ccosh ccoshf ccoshl ccosl ceil ceilf ceill cexp cexpf cexpl",
      "cimag cimagf cimagl clog clog10 clog10f clog10l clogf clogl conj conjf conjl copysign",
      "copysignf copysignl cos cosf cosh coshf coshl cosl cpow cpowf cpowl cproj cprojf cprojl",
      "creal crealf creall csin csinf csinh csinhf csinhl csinl csqrt csqrtf csqrtl ctan ctanf",
      "ctanh ctanhf ctanhl ctanl drem dremf dreml erf erfc erfcf erfcl erff erfl exp10 exp10l",
      "exp2l expl expm1 expm1f expm1l fabs fabsf fabsl fdim fdimf fdiml feclearexcept",
      "fedisableexcept feenableexcept fegetenv fegetexcept fegetexceptflag fegetround",
      "feholdexcept feraiseexcept fesetenv fesetexceptflag fesetround fetestexcept feupdateenv",
      "finite finitef finitel floor floorf floorl fma fmaf fmal fmax fmaxf fmaxl fmin fminf",
      "fminl fmod fmodf fmodl frexp frexpf frexpl gamma gammaf gammal hypotl ilogb ilogbf",
      "ilogbl j0 j0f j0l j1 j1f j1l jn jnf jnl ldexp ldexpf ldexpl lgamma_r lgammaf_r",
      "lgammal_r llrint llrintf llrintl llround llroundf llroundl log10 log10f log10l log1p",
      "log1pf log1pl log2l logb logbf logbl logl lrint lrintf lrintl lround lroundf lroundl",
      "modf modff modfl nan nanf nanl nearbyint nearbyintf nearbyintl nextafter nextafterf",
      "nextafterl nexttoward nexttowardf nexttowardl powl remainder remainderf remainderl",
      "remquo remquof remquol rint rintf rintl round roundf roundl scalb scalbf scalbl scalbln",
      "scalblnf scalblnl scalbn scalbnf scalbnl signgam significand significandf significandl",
      "sin sincos sincosf sincosl sinf sinh sinhf sinhl sinl sqrt sqrtf sqrtl tan tanf tanh",
      "tanhf tanhl tanl tgamma tgammaf tgammal trunc truncf truncl y0 y0f y0l y1 y1f y1l yn",
      "ynf ynl"]
    olderNames := words [
      "_LIB_VERSION exp exp10f exp2 exp2f expf hypot hypotf lgamma lgammaf lgammal log log2",
      "log2f logf matherr pow pow10 pow10f pow10l powf"] },
  { version := "GLIBC_2.4" },
  { version := "GLIBC_2.15"
    olderNames := words [
      "__acos_finite __acosf_finite __acosh_finite __acoshf_finite __acoshl_finite",
      "__acosl_finite __asin_finite __asinf_finite __asinl_finite __atan2_finite",
      "__atan2f_finite __atan2l_finite __atanh_finite __atanhf_finite __atanhl_finite",
      "__cosh_finite __coshf_finite __coshl_finite __exp10_finite __exp10f_finite",
      "__exp10l_finite __exp2_finite __exp2f_finite __exp2l_finite __exp_finite __expf_finite",
      "__expl_finite __fmod_finite __fmodf_finite __fmodl_finite __gamma_r_finite",
      "__gammaf_r_finite __gammal_r_finite __hypot_finite __hypotf_finite __hypotl_finite",
      "__j0_finite __j0f_finite __j0l_finite __j1_finite __j1f_finite __j1l_finite __jn_finite",
      "__jnf_finite __jnl_finite __lgamma_r_finite __lgammaf_r_finite __lgammal_r_finite",
      "__log10_finite __log10f_finite __log10l_finite __log2_finite __log2f_finite",
      "__log2l_finite __log_finite __logf_finite __logl_finite __pow_finite __powf_finite",
      "__powl_finite __remainder_finite __remainderf_finite __remainderl_finite __scalb_finite",
      "__scalbf_finite __scalbl_finite __sinh_finite __sinhf_finite __sinhl_finite",
      "__sqrt_finite __sqrtf_finite __sqrtl_finite __y0_finite __y0f_finite __y0l_finite",
      "__y1_finite __y1f_finite __y1l_finite __yn_finite __ynf_finite __ynl_finite"] },
  { version := "GLIBC_2.18"
    names := words ["__issignaling __issignalingf __issignalingl"] },
  { version := "GLIBC_2.23"
    names := words ["__signgam lgamma lgammaf lgammal"] },
  { version := "GLIBC_2.24"
    names := words ["nextdown nextdownf nextdownl nextup nextupf nextupl"] },
  { version := "GLIBC_2.25"
    names := words [
      "__iscanonicall __iseqsig __iseqsigf __iseqsigl canonicalize canonicalizef canonicalizel",
      "fegetmode fesetexcept fesetmode fetestexceptflag fmaxmag fmaxmagf fmaxmagl fminmag",
      "fminmagf fminmagl fromfp fromfpf fromfpl fromfpx fromfpxf fromfpxl getpayload",
      "getpayloadf getpayloadl llogb llogbf llogbl roundeven roundevenf roundevenl setpayload",
      "setpayloadf setpayloadl setpayloadsig setpayloadsigf setpayloadsigl ufromfp ufromfpf",
      "ufromfpl ufromfpx ufromfpxf ufromfpxl"]
    olderNames := words [
      "totalorder totalorderf totalorderl totalordermag totalordermagf totalordermagl"] },
  { version := "GLIBC_2.26"
    names := words [
      "__finitef128 __fpclassifyf128 __iseqsigf128 __isinff128 __issignalingf128 __signbitf128",
      "acosf128 acoshf128 asinf128 asinhf128 atan2f128 atanf128 atanhf128 cabsf128 cacosf128",
      "cacoshf128 canonicalizef128 cargf128 casinf128 casinhf128 catanf128 catanhf128 cbrtf128",
      "ccosf128 ccoshf128 ceilf128 cexpf128 cimagf128 clog10f128 clogf128 conjf128",
      "copysignf128 cosf128 coshf128 cpowf128 cprojf128 crealf128 csinf128 csinhf128 csqrtf128",
      "ctanf128 ctanhf128 erfcf128 erff128 exp10f128 exp2f128 expf128 expm1f128 fabsf128",
      "fdimf128 floorf128 fmaf128 fmaxf128 fmaxmagf128 fminf128 fminmagf128 fmodf128 frexpf128",
      "fromfpf128 fromfpxf128 getpayloadf128 hypotf128 ilogbf128 j0f128 j1f128 jnf128",
      "ldexpf128 lgammaf128 lgammaf128_r llogbf128 llrintf128 llroundf128 log10f128 log1pf128",
      "log2f128 logbf128 logf128 lrintf128 lroundf128 modff128 nanf128 nearbyintf128",
      "nextafterf128 nextdownf128 nextupf128 powf128 remainderf128 remquof128 rintf128",
      "roundevenf128 roundf128 scalblnf128 scalbnf128 setpayloadf128 setpayloadsigf128",
      "sincosf128 sinf128 sinhf128 sqrtf128 tanf128 tanhf128 tgammaf128 truncf128 ufromfpf128",
      "ufromfpxf128 y0f128 y1f128 ynf128"]
    olderNames := words [
      "__acosf128_finite __acoshf128_finite __asinf128_finite __atan2f128_finite",
      "__atanhf128_finite __coshf128_finite __exp10f128_finite __exp2f128_finite",
      "__expf128_finite __fmodf128_finite __gammaf128_r_finite __hypotf128_finite",
      "__j0f128_finite __j1f128_finite __jnf128_finite __lgammaf128_r_finite",
      "__log10f128_finite __log2f128_finite __logf128_finite __powf128_finite",
      "__remainderf128_finite __sinhf128_finite __sqrtf128_finite __y0f128_finite",
      "__y1f128_finite __ynf128_finite totalorderf128 totalordermagf128"] },
  { version := "GLIBC_2.27"
    names := words [
      "acosf32 acosf32x acosf64 acosf64x acoshf32 acoshf32x acoshf64 acoshf64x asinf32",
      "asinf32x asinf64 asinf64x asinhf32 asinhf32x asinhf64 asinhf64x atan2f32 atan2f32x",
      "atan2f64 atan2f64x atanf32 atanf32x atanf64 atanf64x atanhf32 atanhf32x atanhf64",
      "atanhf64x cabsf32 cabsf32x cabsf64 cabsf64x cacosf32 cacosf32x cacosf64 cacosf64x",
      "cacoshf32 cacoshf32x cacoshf64 cacoshf64x canonicalizef32 canonicalizef32x",
      "canonicalizef64 canonicalizef64x cargf32 cargf32x cargf64 cargf64x casinf32 casinf32x",
      "casinf64 casinf64x casinhf32 casinhf32x casinhf64 casinhf64x catanf32 catanf32x",
      "catanf64 catanf64x catanhf32 catanhf32x catanhf64 catanhf64x cbrtf32 cbrtf32x cbrtf64",
      "cbrtf64x ccosf32 ccosf32x ccosf64 ccosf64x ccoshf32 ccoshf32x ccoshf64 ccoshf64x",
      "ceilf32 ceilf32x ceilf64 ceilf64x cexpf32 cexpf32x cexpf64 cexpf64x cimagf32 cimagf32x",
      "cimagf64 cimagf64x clog10f32 clog10f32x clog10f64 clog10f64x clogf32 clogf32x clogf64",
      "clogf64x conjf32 conjf32x conjf64 conjf64x copysignf32 copysignf32x copysignf64",
      "copysignf64x cosf32 cosf32x cosf64 cosf64x coshf32 coshf32x coshf64 coshf64x cpowf32",
      "cpowf32x cpowf64 cpowf64x cprojf32 cprojf32x cprojf64 cprojf64x crealf32 crealf32x",
      "crealf64 crealf64x csinf32 csinf32x csinf64 csinf64x csinhf32 csinhf32x csinhf64",
      "csinhf64x csqrtf32 csqrtf32x csqrtf64 csqrtf64x ctanf32 ctanf32x ctanf64 ctanf64x",
      "ctanhf32 ctanhf32x ctanhf64 ctanhf64x erfcf32 erfcf32x erfcf64 erfcf64x erff32 erff32x",
      "erff64 erff64x exp10f32 exp10f32x exp10f64 exp10f64x exp2f exp2f32 exp2f32x exp2f64",
      "exp2f64x expf expf32 expf32x expf64 expf64x expm1f32 expm1f32x expm1f64 expm1f64x",
      "fabsf32 fabsf32x fabsf64 fabsf64x fdimf32 fdimf32x fdimf64 fdimf64x floorf32 floorf32x",
      "floorf64 floorf64x fmaf32 fmaf32x fmaf64 fmaf64x fmaxf32 fmaxf32x fmaxf64 fmaxf64x",
      "fmaxmagf32 fmaxmagf32x fmaxmagf64 fmaxmagf64x fminf32 fminf32x fminf64 fminf64x",
      "fminmagf32 fminmagf32x fminmagf64 fminmagf64x fmodf32 fmodf32x fmodf64 fmodf64x",
      "frexpf32 frexpf32x frexpf64 frexpf64x fromfpf32 fromfpf32x fromfpf64 fromfpf64x",
      "fromfpxf32 fromfpxf32x fromfpxf64 fromfpxf64x getpayloadf32 getpayloadf32x",
      "getpayloadf64 getpayloadf64x hypotf32 hypotf32x hypotf64 hypotf64x ilogbf32 ilogbf32x",
      "ilogbf64 ilogbf64x j0f32 j0f32x j0f64 j0f64x j1f32 j1f32x j1f64 j1f64x jnf32 jnf32x",
      "jnf64 jnf64x ldexpf32 ldexpf32x ldexpf64 ldexpf64x lgammaf32 lgammaf32_r lgammaf32x",
      "lgammaf32x_r lgammaf64 lgammaf64_r lgammaf64x lgammaf64x_r llogbf32 llogbf32x llogbf64",
      "llogbf64x llrintf32 llrintf32x llrintf64 llrintf64x llroundf32 llroundf32x llroundf64",
      "llroundf64x log10f32 log10f32x log10f64 log10f64x log1pf32 log1pf32x log1pf64 log1pf64x",
      "log2f log2f32 log2f32x log2f64 log2f64x logbf32 logbf32x logbf64 logbf64x logf logf32",
      "logf32x logf64 logf64x lrintf32 lrintf32x lrintf64 lrintf64x lroundf32 lroundf32x",
      "lroundf64 lroundf64x modff32 modff32x modff64 modff64x nanf32 nanf32x nanf64 nanf64x",
      "nearbyintf32 nearbyintf32x nearbyintf64 nearbyintf64x nextafterf32 nextafterf32x",
      "nextafterf64 nextafterf64x nextdownf32 nextdownf32x nextdownf64 nextdownf64x nextupf32",
      "nextupf32x nextupf64 nextupf64x powf powf32 powf32x powf64 powf64x remainderf32",
      "remainderf32x remainderf64 remainderf64x remquof32 remquof32x remquof64 remquof64x",
      "rintf32 rintf32x rintf64 rintf64x roundevenf32 roundevenf32x roundevenf64 roundevenf64x",
      "roundf32 roundf32x roundf64 roundf64x scalblnf32 scalblnf32x scalblnf64 scalblnf64x",
      "scalbnf32 scalbnf32x scalbnf64 scalbnf64x setpayloadf32 setpayloadf32x setpayloadf64",
      "setpayloadf64x setpayloadsigf32 setpayloadsigf32x setpayloadsigf64 setpayloadsigf64x",
      "sincosf32 sincosf32x sincosf64 sincosf64x sinf32 sinf32x sinf64 sinf64x sinhf32",
      "sinhf32x sinhf64 sinhf64x sqrtf32 sqrtf32x sqrtf64 sqrtf64x tanf32 tanf32x tanf64",
      "tanf64x tanhf32 tanhf32x tanhf64 tanhf64x tgammaf32 tgammaf32x tgammaf64 tgammaf64x",
      "truncf32 truncf32x truncf64 truncf64x ufromfpf32 ufromfpf32x ufromfpf64 ufromfpf64x",
      "ufromfpxf32 ufromfpxf32x ufromfpxf64 ufromfpxf64x y0f32 y0f32x y0f64 y0f64x y1f32",
      "y1f32x y1f64 y1f64x ynf32 ynf32x ynf64 ynf64x"]
    olderNames := words [
      "totalorderf32 totalorderf32x totalorderf64 totalorderf64x totalordermagf32",
      "totalordermagf32x totalordermagf64 totalordermagf64x"] },
  { version := "GLIBC_2.28"
    names := words [
      "daddl ddivl dmull dsubl f32addf128 f32addf32x f32addf64 f32addf64x f32divf128",
      "f32divf32x f32divf64 f32divf64x f32mulf128 f32mulf32x f32mulf64 f32mulf64x f32subf128",
      "f32subf32x f32subf64 f32subf64x f32xaddf128 f32xaddf64 f32xaddf64x f32xdivf128",
      "f32xdivf64 f32xdivf64x f32xmulf128 f32xmulf64 f32xmulf64x f32xsubf128 f32xsubf64",
      "f32xsubf64x f64addf128 f64addf64x f64divf128 f64divf64x f64mulf128 f64mulf64x",
      "f64subf128 f64subf64x f64xaddf128 f64xdivf128 f64xmulf128 f64xsubf128 fadd faddl fdiv",
      "fdivl fmul fmull fsub fsubl"] },
  { version := "GLIBC_2.29"
    names := words ["exp exp2 log log2 pow"] },
  { version := "GLIBC_2.31"
    names := words [
      "totalorder totalorderf totalorderf128 totalorderf32 totalorderf32x totalorderf64",
      "totalorderf64x totalorderl totalordermag totalordermagf totalordermagf128",
      "totalordermagf32 totalordermagf32x totalordermagf64 totalordermagf64x totalordermagl"] },
  { version := "GLIBC_2.32"
    names := words ["exp10f"] },
  { version := "GLIBC_2.35"
    names := words [
      "dfmal dsqrtl f32fmaf128 f32fmaf32x f32fmaf64 f32fmaf64x f32sqrtf128 f32sqrtf32x",
      "f32sqrtf64 f32sqrtf64x f32xfmaf128 f32xfmaf64 f32xfmaf64x f32xsqrtf128 f32xsqrtf64",
      "f32xsqrtf64x f64fmaf128 f64fmaf64x f64sqrtf128 f64sqrtf64x f64xfmaf128 f64xsqrtf128",
      "ffma ffmal fmaximum fmaximum_mag fmaximum_mag_num fmaximum_mag_numf",
      "fmaximum_mag_numf128 fmaximum_mag_numf32 fmaximum_mag_numf32x fmaximum_mag_numf64",
      "fmaximum_mag_numf64x fmaximum_mag_numl fmaximum_magf fmaximum_magf128 fmaximum_magf32",
      "fmaximum_magf32x fmaximum_magf64 fmaximum_magf64x fmaximum_magl fmaximum_num",
      "fmaximum_numf fmaximum_numf128 fmaximum_numf32 fmaximum_numf32x fmaximum_numf64",
      "fmaximum_numf64x fmaximum_numl fmaximumf fmaximumf128 fmaximumf32 fmaximumf32x",
      "fmaximumf64 fmaximumf64x fmaximuml fminimum fminimum_mag fminimum_mag_num",
      "fminimum_mag_numf fminimum_mag_numf128 fminimum_mag_numf32 fminimum_mag_numf32x",
      "fminimum_mag_numf64 fminimum_mag_numf64x fminimum_mag_numl fminimum_magf",
      "fminimum_magf128 fminimum_magf32 fminimum_magf32x fminimum_magf64 fminimum_magf64x",
      "fminimum_magl fminimum_num fminimum_numf fminimum_numf128 fminimum_numf32",
      "fminimum_numf32x fminimum_numf64 fminimum_numf64x fminimum_numl fminimumf fminimumf128",
      "fminimumf32 fminimumf32x fminimumf64 fminimumf64x fminimuml fsqrt fsqrtl hypot hypotf"] }]

/-- Symbols of the library for unwinding calls and for arithmetic on wide numbers. -/
def unwindSymbols : List VersionedNames := [
  { version := "GCC_3.0"
    names := words [
      "_Unwind_DeleteException _Unwind_Find_FDE _Unwind_ForcedUnwind _Unwind_GetDataRelBase",
      "_Unwind_GetGR _Unwind_GetIP _Unwind_GetLanguageSpecificData _Unwind_GetRegionStart",
      "_Unwind_GetTextRelBase _Unwind_RaiseException _Unwind_Resume _Unwind_SetGR",
      "_Unwind_SetIP __absvdi2 __absvsi2 __addvdi3 __addvsi3 __ashlti3 __ashrti3 __clear_cache",
      "__cmpti2 __deregister_frame __deregister_frame_info __deregister_frame_info_bases",
      "__divti3 __extendsfdf2 __ffsdi2 __ffsti2 __fixdfti __fixsfti __fixunsdfdi __fixunsdfti",
      "__fixunssfdi __fixunssfti __fixunsxfdi __fixunsxfti __fixxfti __floattidf __floattisf",
      "__floattixf __lshrti3 __modti3 __multi3 __mulvdi3 __mulvsi3 __negti2 __negvdi2",
      "__negvsi2 __register_frame __register_frame_info __register_frame_info_bases",
      "__register_frame_info_table __register_frame_info_table_bases __register_frame_table",
      "__subvdi3 __subvsi3 __truncdfsf2 __ucmpti2 __udivmodti4 __udivti3 __umodti3"]
    olderNames := words ["__gttf2 __lttf2 __netf2"] },
  { version := "GCC_3.3"
    names := words [
      "_Unwind_Backtrace _Unwind_FindEnclosingFunction _Unwind_GetCFA",
      "_Unwind_Resume_or_Rethrow"] },
  { version := "GCC_3.3.1"
    names := words ["__gcc_personality_v0"] },
  { version := "GCC_3.4"
    names := words [
      "__clzdi2 __clzti2 __ctzdi2 __ctzti2 __paritydi2 __parityti2 __popcountdi2 __popcountti2"] },
  { version := "GCC_3.4.2"
    names := words ["__enable_execute_stack"] },
  { version := "GCC_3.4.4"
    names := words ["__absvti2 __addvti3 __mulvti3 __negvti2 __subvti3"] },
  { version := "GCC_4.0.0"
    names := words [
      "__divdc3 __divsc3 __divxc3 __muldc3 __mulsc3 __mulxc3 __powidf2 __powisf2 __powixf2"]
    olderNames := words ["__divtc3 __multc3 __powitf2"] },
  { version := "GCC_4.2.0"
    names := words ["_Unwind_GetIPInfo __floatuntidf __floatuntisf __floatuntixf"] },
  { version := "GCC_4.3.0"
    names := words [
      "__addtf3 __bswapdi2 __bswapsi2 __divtc3 __divtf3 __emutls_get_address",
      "__emutls_register_common __eqtf2 __extenddftf2 __extendsftf2 __extendxftf2 __fixtfdi",
      "__fixtfsi __fixtfti __fixunstfdi __fixunstfsi __fixunstfti __floatditf __floatsitf",
      "__floattitf __floatunditf __floatunsitf __floatuntitf __getf2 __gttf2 __letf2 __lttf2",
      "__multc3 __multf3 __negtf2 __netf2 __powitf2 __subtf3 __trunctfdf2 __trunctfsf2",
      "__trunctfxf2 __unordtf2"] },
  { version := "GCC_4.7.0"
    names := words ["__clrsbdi2 __clrsbti2"] },
  { version := "GCC_4.8.0"
    olderNames := words ["__cpu_indicator_init __cpu_model"] },
  { version := "GCC_7.0.0"
    names := words ["__divmodti4"] },
  { version := "GCC_12.0.0"
    names := words [
      "__divhc3 __eqhf2 __extendhfdf2 __extendhfsf2 __extendhftf2 __extendhfxf2 __fixhfti",
      "__fixunshfti __floattihf __floatuntihf __mulhc3 __nehf2 __truncdfhf2 __truncsfhf2",
      "__trunctfhf2 __truncxfhf2"] }]

def resolverSymbols : List VersionedNames := [
  { version := "GLIBC_2.2.5"
    names := words [
      "__b64_ntop __b64_pton __dn_count_labels __fp_nquery __fp_query __fp_resstat __hostalias",
      "__loc_aton __loc_ntoa __p_cdname __p_cdnname __p_class __p_class_syms __p_fqname",
      "__p_fqnname __p_option __p_query __p_time __p_type __p_type_syms __putlong __putshort",
      "__res_close __res_hostalias __res_isourserver __res_nameinquery __res_queriesmatch",
      "__sym_ntop __sym_ntos __sym_ston _getlong _getshort _res_opcodes inet_net_ntop",
      "inet_net_pton inet_neta"]
    olderNames := words [
      "__p_secstodate _gethtbyaddr _gethtbyname _gethtbyname2 _gethtent _sethtent",
      "res_gethostbyaddr res_gethostbyname res_gethostbyname2 res_send_setqhook",
      "res_send_setrhook"] },
  { version := "GLIBC_2.3.2"
    names := words ["__p_rcode"] },
  { version := "GLIBC_2.9"
    names := words [
      "ns_datetosecs ns_format_ttl ns_get16 ns_get32 ns_initparse ns_makecanon ns_msg_getflag",
      "ns_name_ntol ns_name_rollback ns_parse_ttl ns_parserr ns_put16 ns_put32 ns_samedomain",
      "ns_samename ns_skiprr ns_sprintrr ns_sprintrrf ns_subdomain"] },
  { version := "GLIBC_PRIVATE"
    names := words ["__ns_get16 __ns_get32"] }]

def passwordSymbols : List VersionedNames := [
  { version := "GLIBC_2.2.5"
    olderNames := words ["crypt crypt_r encrypt encrypt_r fcrypt setkey setkey_r"] },
  { version := "XCRYPT_2.0"
    names := words [
      "crypt crypt_gensalt crypt_gensalt_ra crypt_gensalt_rn crypt_r crypt_ra crypt_rn"]
    olderNames := words ["crypt_gensalt_r xcrypt xcrypt_gensalt xcrypt_gensalt_r xcrypt_r"] },
  { version := "XCRYPT_4.3"
    names := words ["crypt_checksalt"] },
  { version := "XCRYPT_4.4"
    names := words ["crypt_preferred_method"] }]

def vectorSymbols : List VersionedNames := [
  { version := "GLIBC_2.22"
    names := words [
      "_ZGVbN2v_cos _ZGVbN2v_exp _ZGVbN2v_log _ZGVbN2v_sin _ZGVbN2vv_pow _ZGVbN2vvv_sincos",
      "_ZGVbN4v_cosf _ZGVbN4v_expf _ZGVbN4v_logf _ZGVbN4v_sinf _ZGVbN4vv_powf",
      "_ZGVbN4vvv_sincosf _ZGVcN4v_cos _ZGVcN4v_exp _ZGVcN4v_log _ZGVcN4v_sin _ZGVcN4vv_pow",
      "_ZGVcN4vvv_sincos _ZGVcN8v_cosf _ZGVcN8v_expf _ZGVcN8v_logf _ZGVcN8v_sinf",
      "_ZGVcN8vv_powf _ZGVcN8vvv_sincosf _ZGVdN4v_cos _ZGVdN4v_exp _ZGVdN4v_log _ZGVdN4v_sin",
      "_ZGVdN4vv_pow _ZGVdN4vvv_sincos _ZGVdN8v_cosf _ZGVdN8v_expf _ZGVdN8v_logf _ZGVdN8v_sinf",
      "_ZGVdN8vv_powf _ZGVdN8vvv_sincosf _ZGVeN16v_cosf _ZGVeN16v_expf _ZGVeN16v_logf",
      "_ZGVeN16v_sinf _ZGVeN16vv_powf _ZGVeN16vvv_sincosf _ZGVeN8v_cos _ZGVeN8v_exp",
      "_ZGVeN8v_log _ZGVeN8v_sin _ZGVeN8vv_pow _ZGVeN8vvv_sincos"] },
  { version := "GLIBC_2.35"
    names := words [
      "_ZGVbN2v_acos _ZGVbN2v_acosh _ZGVbN2v_asin _ZGVbN2v_asinh _ZGVbN2v_atan _ZGVbN2v_atanh",
      "_ZGVbN2v_cbrt _ZGVbN2v_cosh _ZGVbN2v_erf _ZGVbN2v_erfc _ZGVbN2v_exp10 _ZGVbN2v_exp2",
      "_ZGVbN2v_expm1 _ZGVbN2v_log10 _ZGVbN2v_log1p _ZGVbN2v_log2 _ZGVbN2v_sinh _ZGVbN2v_tan",
      "_ZGVbN2v_tanh _ZGVbN2vv_atan2 _ZGVbN2vv_hypot _ZGVbN4v_acosf _ZGVbN4v_acoshf",
      "_ZGVbN4v_asinf _ZGVbN4v_asinhf _ZGVbN4v_atanf _ZGVbN4v_atanhf _ZGVbN4v_cbrtf",
      "_ZGVbN4v_coshf _ZGVbN4v_erfcf _ZGVbN4v_erff _ZGVbN4v_exp10f _ZGVbN4v_exp2f",
      "_ZGVbN4v_expm1f _ZGVbN4v_log10f _ZGVbN4v_log1pf _ZGVbN4v_log2f _ZGVbN4v_sinhf",
      "_ZGVbN4v_tanf _ZGVbN4v_tanhf _ZGVbN4vv_atan2f _ZGVbN4vv_hypotf _ZGVcN4v_acos",
      "_ZGVcN4v_acosh _ZGVcN4v_asin _ZGVcN4v_asinh _ZGVcN4v_atan _ZGVcN4v_atanh _ZGVcN4v_cbrt",
      "_ZGVcN4v_cosh _ZGVcN4v_erf _ZGVcN4v_erfc _ZGVcN4v_exp10 _ZGVcN4v_exp2 _ZGVcN4v_expm1",
      "_ZGVcN4v_log10 _ZGVcN4v_log1p _ZGVcN4v_log2 _ZGVcN4v_sinh _ZGVcN4v_tan _ZGVcN4v_tanh",
      "_ZGVcN4vv_atan2 _ZGVcN4vv_hypot _ZGVcN8v_acosf _ZGVcN8v_acoshf _ZGVcN8v_asinf",
      "_ZGVcN8v_asinhf _ZGVcN8v_atanf _ZGVcN8v_atanhf _ZGVcN8v_cbrtf _ZGVcN8v_coshf",
      "_ZGVcN8v_erfcf _ZGVcN8v_erff _ZGVcN8v_exp10f _ZGVcN8v_exp2f _ZGVcN8v_expm1f",
      "_ZGVcN8v_log10f _ZGVcN8v_log1pf _ZGVcN8v_log2f _ZGVcN8v_sinhf _ZGVcN8v_tanf",
      "_ZGVcN8v_tanhf _ZGVcN8vv_atan2f _ZGVcN8vv_hypotf _ZGVdN4v_acos _ZGVdN4v_acosh",
      "_ZGVdN4v_asin _ZGVdN4v_asinh _ZGVdN4v_atan _ZGVdN4v_atanh _ZGVdN4v_cbrt _ZGVdN4v_cosh",
      "_ZGVdN4v_erf _ZGVdN4v_erfc _ZGVdN4v_exp10 _ZGVdN4v_exp2 _ZGVdN4v_expm1 _ZGVdN4v_log10",
      "_ZGVdN4v_log1p _ZGVdN4v_log2 _ZGVdN4v_sinh _ZGVdN4v_tan _ZGVdN4v_tanh _ZGVdN4vv_atan2",
      "_ZGVdN4vv_hypot _ZGVdN8v_acosf _ZGVdN8v_acoshf _ZGVdN8v_asinf _ZGVdN8v_asinhf",
      "_ZGVdN8v_atanf _ZGVdN8v_atanhf _ZGVdN8v_cbrtf _ZGVdN8v_coshf _ZGVdN8v_erfcf",
      "_ZGVdN8v_erff _ZGVdN8v_exp10f _ZGVdN8v_exp2f _ZGVdN8v_expm1f _ZGVdN8v_log10f",
      "_ZGVdN8v_log1pf _ZGVdN8v_log2f _ZGVdN8v_sinhf _ZGVdN8v_tanf _ZGVdN8v_tanhf",
      "_ZGVdN8vv_atan2f _ZGVdN8vv_hypotf _ZGVeN16v_acosf _ZGVeN16v_acoshf _ZGVeN16v_asinf",
      "_ZGVeN16v_asinhf _ZGVeN16v_atanf _ZGVeN16v_atanhf _ZGVeN16v_cbrtf _ZGVeN16v_coshf",
      "_ZGVeN16v_erfcf _ZGVeN16v_erff _ZGVeN16v_exp10f _ZGVeN16v_exp2f _ZGVeN16v_expm1f",
      "_ZGVeN16v_log10f _ZGVeN16v_log1pf _ZGVeN16v_log2f _ZGVeN16v_sinhf _ZGVeN16v_tanf",
      "_ZGVeN16v_tanhf _ZGVeN16vv_atan2f _ZGVeN16vv_hypotf _ZGVeN8v_acos _ZGVeN8v_acosh",
      "_ZGVeN8v_asin _ZGVeN8v_asinh _ZGVeN8v_atan _ZGVeN8v_atanh _ZGVeN8v_cbrt _ZGVeN8v_cosh",
      "_ZGVeN8v_erf _ZGVeN8v_erfc _ZGVeN8v_exp10 _ZGVeN8v_exp2 _ZGVeN8v_expm1 _ZGVeN8v_log10",
      "_ZGVeN8v_log1p _ZGVeN8v_log2 _ZGVeN8v_sinh _ZGVeN8v_tan _ZGVeN8v_tanh _ZGVeN8vv_atan2",
      "_ZGVeN8vv_hypot"] }]

def debuggerSymbols : List VersionedNames := [
  { version := "GLIBC_2.2.5"
    names := words [
      "td_init td_log td_symbol_list td_ta_clear_event td_ta_delete td_ta_enable_stats",
      "td_ta_event_addr td_ta_event_getmsg td_ta_get_nthreads td_ta_get_ph td_ta_get_stats",
      "td_ta_map_id2thr td_ta_map_lwp2thr td_ta_new td_ta_reset_stats td_ta_set_event",
      "td_ta_setconcurrency td_ta_thr_iter td_ta_tsd_iter td_thr_clear_event td_thr_dbresume",
      "td_thr_dbsuspend td_thr_event_enable td_thr_event_getmsg td_thr_get_info",
      "td_thr_getfpregs td_thr_getgregs td_thr_getxregs td_thr_getxregsize td_thr_set_event",
      "td_thr_setfpregs td_thr_setgregs td_thr_setprio td_thr_setsigpending td_thr_setxregs",
      "td_thr_sigsetmask td_thr_tsd td_thr_validate"] },
  { version := "GLIBC_2.3"
    names := words ["td_thr_tls_get_addr"] },
  { version := "GLIBC_2.3.3"
    names := words ["td_thr_tlsbase"] }]

def compatibilitySymbols : List VersionedNames := [
  { version := "GLIBC_PRIVATE"
    names := words [
      "_nss_compat_endgrent _nss_compat_endpwent _nss_compat_endspent _nss_compat_getgrent_r",
      "_nss_compat_getgrgid_r _nss_compat_getgrnam_r _nss_compat_getpwent_r",
      "_nss_compat_getpwnam_r _nss_compat_getpwuid_r _nss_compat_getspent_r",
      "_nss_compat_getspnam_r _nss_compat_initgroups_dyn _nss_compat_setgrent",
      "_nss_compat_setpwent _nss_compat_setspent"] }]

def hesiodSymbols : List VersionedNames := [
  { version := "GLIBC_PRIVATE"
    names := words [
      "_nss_hesiod_endgrent _nss_hesiod_endprotoent _nss_hesiod_endpwent",
      "_nss_hesiod_endservent _nss_hesiod_getgrgid_r _nss_hesiod_getgrnam_r",
      "_nss_hesiod_getprotobyname_r _nss_hesiod_getprotobynumber_r _nss_hesiod_getpwnam_r",
      "_nss_hesiod_getpwuid_r _nss_hesiod_getservbyname_r _nss_hesiod_getservbyport_r",
      "_nss_hesiod_initgroups_dyn _nss_hesiod_setgrent _nss_hesiod_setprotoent",
      "_nss_hesiod_setpwent _nss_hesiod_setservent"] }]

/-- Symbols of the library for programs that take locales to have single bytes only. -/
def formerLocaleSymbols : List VersionedNames := [
  { version := "GLIBC_2.2.5"
    names := words ["__ctype_get_mb_cur_max"] }]

def allocationSymbols : List VersionedNames := [
  { version := "GLIBC_2.2.5"
    olderNames := words [
      "__free_hook __malloc_hook __memalign_hook __realloc_hook calloc free mallinfo malloc",
      "malloc_get_state malloc_set_state malloc_stats malloc_trim malloc_usable_size mallopt",
      "mcheck mcheck_check_all mcheck_pedantic memalign mprobe mtrace muntrace posix_memalign",
      "pvalloc realloc valloc"] },
  { version := "GLIBC_2.10"
    olderNames := words ["malloc_info"] },
  { version := "GLIBC_2.16"
    olderNames := words ["aligned_alloc"] },
  { version := "GLIBC_2.33"
    olderNames := words ["mallinfo2"] }]

def networkNameSymbols : List VersionedNames := [
  { version := "GLIBC_2.2.5"
    olderNames := words [
      "__free_fdresult __nis_default_access __nis_default_group __nis_default_owner",
      "__nis_default_ttl __nis_finddirectory __nis_hash __nisbind_connect __nisbind_create",
      "__nisbind_destroy __nisbind_next __yp_check nis_add nis_add_entry nis_addmember",
      "nis_checkpoint nis_clone_directory nis_clone_object nis_clone_result nis_creategroup",
      "nis_destroy_object nis_destroygroup nis_dir_cmp nis_domain_of nis_domain_of_r",
      "nis_first_entry nis_free_directory nis_free_object nis_free_request nis_freenames",
      "nis_freeresult nis_freeservlist nis_freetags nis_getnames nis_getservlist nis_ismember",
      "nis_leaf_of nis_leaf_of_r nis_lerror nis_list nis_local_directory nis_local_group",
      "nis_local_host nis_local_principal nis_lookup nis_mkdir nis_modify nis_modify_entry",
      "nis_name_of nis_name_of_r nis_next_entry nis_perror nis_ping nis_print_directory",
      "nis_print_entry nis_print_group nis_print_group_entry nis_print_link nis_print_object",
      "nis_print_result nis_print_rights nis_print_table nis_read_obj nis_remove",
      "nis_remove_entry nis_removemember nis_rmdir nis_servstate nis_sperrno nis_sperror",
      "nis_sperror_r nis_stats nis_verifygroup nis_write_obj readColdStartFile",
      "writeColdStartFile xdr_cback_data xdr_domainname xdr_keydat xdr_mapname xdr_obj_p",
      "xdr_peername xdr_valdat xdr_yp_buf xdr_ypall xdr_ypbind_binding xdr_ypbind_resp",
      "xdr_ypbind_resptype xdr_ypbind_setdom xdr_ypdelete_args xdr_ypmap_parms xdr_ypmaplist",
      "xdr_yppush_status xdr_yppushresp_xfr xdr_ypreq_key xdr_ypreq_nokey xdr_ypreq_xfr",
      "xdr_ypresp_all xdr_ypresp_key_val xdr_ypresp_maplist xdr_ypresp_master xdr_ypresp_order",
      "xdr_ypresp_val xdr_ypresp_xfr xdr_ypstat xdr_ypupdate_args xdr_ypxfrstat yp_all yp_bind",
      "yp_first yp_get_default_domain yp_maplist yp_master yp_match yp_next yp_order yp_unbind",
      "yp_update ypbinderr_string yperr_string ypprot_err"] },
  { version := "GLIBC_PRIVATE"
    olderNames := words [
      "__create_ib_request __do_niscall3 __follow_path __prepare_niscall _xdr_ib_request",
      "_xdr_nis_result"] }]

def exceptionSymbols : List String := words [
  "__atomic_flag_for_address __atomic_flag_wait_explicit __cxa_allocate_dependent_exception",
  "__cxa_allocate_exception __cxa_bad_cast __cxa_bad_typeid __cxa_begin_catch",
  "__cxa_call_unexpected __cxa_current_exception_type __cxa_deleted_virtual __cxa_demangle",
  "__cxa_end_catch __cxa_free_dependent_exception __cxa_free_exception __cxa_get_exception_ptr",
  "__cxa_get_globals __cxa_get_globals_fast __cxa_guard_abort __cxa_guard_acquire",
  "__cxa_guard_release __cxa_init_primary_exception __cxa_pure_virtual __cxa_rethrow",
  "__cxa_thread_atexit __cxa_throw __cxa_throw_bad_array_length __cxa_throw_bad_array_new_length",
  "__cxa_tm_cleanup __cxa_vec_cctor __cxa_vec_cleanup __cxa_vec_ctor __cxa_vec_delete",
  "__cxa_vec_delete2 __cxa_vec_delete3 __cxa_vec_dtor __cxa_vec_new __cxa_vec_new2 __cxa_vec_new3",
  "__dynamic_cast __gxx_personality_v0 __once_proxy atomic_flag_clear_explicit",
  "atomic_flag_test_and_set_explicit"]

def memoryUseSymbols : List String := words [
  "calloc free malloc mmap mmap64 mremap munmap realloc"]

def callProfileSymbols : List String := words [
  "__cyg_profile_func_enter __cyg_profile_func_exit"]

def kernelSymbols : List String := words [
  "__vdso_clock_getres __vdso_clock_gettime __vdso_getcpu __vdso_gettimeofday __vdso_time",
  "clock_getres clock_gettime getcpu gettimeofday time"]

end GuestBridge.Posix.SystemLibrary
