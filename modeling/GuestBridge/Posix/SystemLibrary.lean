import GuestBridge.Posix.SystemLibrary.CLibrary
import GuestBridge.Posix.SystemLibrary.Mangled.Functions
import GuestBridge.Posix.SystemLibrary.Mangled.Locales
import GuestBridge.Posix.SystemLibrary.Mangled.Members
import GuestBridge.Posix.SystemLibrary.Mangled.Streams
import GuestBridge.Posix.SystemLibrary.Mangled.Strings
import GuestBridge.Posix.SystemLibrary.Mangled.TypeInformation
import GuestBridge.Posix.SystemLibrary.Symbols

/-!
The shared libraries that come with the system, by name: the libraries that each of them needs, the
versions that it defines, and the symbols that can be looked up in it.
-/
namespace GuestBridge.Posix

structure SystemLibrary where
  name : String
  needed : List String := ["libc.so.6"]
  /-- Its versions in order, with the symbols that came with each. -/
  versioned : List SystemLibrary.VersionedNames := []
  /-- Symbols that are there for any of its versions. -/
  symbols : List String := []
  aliases : List String := []
  deriving DecidableEq

namespace SystemLibrary

def versions (library : SystemLibrary) : List String := library.versioned.map (·.version)

def bare (versions : List String) : List VersionedNames := versions.map ({ version := · })

/-- Versions of a library that has become part of the C library. One name is left to tell that it
was there. -/
def emptied (name : String) (versions : List String) : List VersionedNames :=
  versions.map ({ version := ·, olderNames := [name] })

/-- Versions of one series, by what they begin with and how each of them goes on. -/
def series (beginning : String) (numbers : List String) : List String :=
  families [(beginning, numbers)]

/-- The program itself, under the empty name. It is linked with the C library, and with the one for
unwinding. -/
def program : SystemLibrary where
  name := ""
  needed := ["libgcc_s.so.1", "libc.so.6"]

def kernel : SystemLibrary where
  name := "linux-vdso.so.1"
  needed := []
  versioned := [{ version := "LINUX_2.6", names := kernelSymbols }]

def unwinding : SystemLibrary where
  name := "libgcc_s.so.1"
  versioned := unwindSymbols

def c : SystemLibrary where
  name := "libc.so.6"
  needed := ["ld-linux-x86-64.so.2"]
  versioned := cSymbols

def loader : SystemLibrary where
  name := "ld-linux-x86-64.so.2"
  needed := []
  versioned := loaderSymbols

def mathematics : SystemLibrary where
  name := "libm.so.6"
  needed := ["libc.so.6", "ld-linux-x86-64.so.2"]
  versioned := mathSymbols

def mangled : SystemLibrary where
  name := "libstdc++.so.6"
  needed := ["libm.so.6", "libc.so.6", "ld-linux-x86-64.so.2", "libgcc_s.so.1"]
  versioned := bare (
    series "GLIBCXX_3.4" ["", ".1 .2 .3 .4 .5 .6 .7 .8 .9 .10 .11 .12 .13 .14 .15 .16 .17 .18",
      ".19 .20 .21 .22 .23 .24 .25 .26 .27 .28 .29 .30"] ++
    series "CXXABI_" ["1.3 1.3.1 1.3.2 1.3.3 1.3.4 1.3.5 1.3.6 1.3.7 1.3.8 1.3.9 1.3.10 1.3.11",
      "1.3.12 1.3.13 TM_1 FLOAT128"])
  symbols := exceptionSymbols ++ functionSymbols ++ memberSymbols ++ stringSymbols ++
    streamSymbols ++ localeSymbols ++ typeSymbols
  aliases := ["libstdc++.so.6.0.30"]

/-- What is in memory from the start. The program sees all of it but the kernel's part. -/
def present : List SystemLibrary := [program, kernel, unwinding, c, loader]

/-- Libraries that are loaded when they are asked for. Many have come to be part of the C library
and have no symbols left. -/
def others : List SystemLibrary := [
  mathematics,
  mangled,
  { name := "libmvec.so.1"
    needed := ["libm.so.6", "ld-linux-x86-64.so.2", "libc.so.6"]
    versioned := vectorSymbols },
  { name := "libresolv.so.2", versioned := resolverSymbols },
  { name := "libcrypt.so.1"
    versioned := passwordSymbols
    aliases := ["libcrypt.so.1.1.0"] },
  { name := "libthread_db.so.1", versioned := debuggerSymbols },
  { name := "libnss_compat.so.2", versioned := compatibilitySymbols },
  { name := "libnss_hesiod.so.2"
    needed := ["libresolv.so.2", "libc.so.6"]
    versioned := hesiodSymbols },
  { name := "libmemusage.so"
    needed := ["libc.so.6", "ld-linux-x86-64.so.2"]
    symbols := memoryUseSymbols },
  { name := "libpcprofile.so", symbols := callProfileSymbols },
  { name := "libBrokenLocale.so.1", versioned := formerLocaleSymbols },
  { name := "libc_malloc_debug.so.0", versioned := allocationSymbols },
  { name := "libnsl.so.1", versioned := networkNameSymbols },
  { name := "libnss_dns.so.2", versioned := bare ["GLIBC_PRIVATE"] },
  { name := "libnss_files.so.2", versioned := bare ["GLIBC_PRIVATE"] },
  { name := "libanl.so.1"
    versioned := emptied "__libanl_version_placeholder" ["GLIBC_2.2.5"] },
  { name := "libdl.so.2"
    versioned := emptied "__libdl_version_placeholder" (series "GLIBC_" ["2.2.5 2.3.3 2.3.4"]) },
  { name := "libpthread.so.0"
    versioned := emptied "__libpthread_version_placeholder" (series "GLIBC_" [
      "2.2.5 2.2.6 2.3.2 2.3.3 2.3.4 2.4 2.11 2.12 2.18 2.28 2.30 2.31"]) },
  { name := "librt.so.1"
    versioned := emptied "__librt_version_placeholder" (series "GLIBC_" [
      "2.2.5 2.3.3 2.3.4 2.4 2.7"]) },
  { name := "libutil.so.1"
    versioned := emptied "__libutil_version_placeholder" ["GLIBC_2.2.5"] }]

def directory : String := "/lib/x86_64-linux-gnu/"

/-- Files in the place of the libraries that are no objects but say how to link with one. -/
def scripts : List String := ["libc.so", "libm.so"]

def isNamed (library : SystemLibrary) (name : String) : Bool :=
  library.name == name || library.aliases.contains name

def installed : List SystemLibrary := unwinding :: c :: loader :: others

def named? (name : String) : Option SystemLibrary := installed.find? (·.isNamed name)

end SystemLibrary

end GuestBridge.Posix
