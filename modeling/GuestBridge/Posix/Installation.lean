import GuestBridge.Posix.System
import GuestBridge.Posix.SystemLibrary

/-!
A machine before anything is done with it: directories from the top down, links, the libraries, and
some files that are no libraries. New files can be made in the working directory, which is empty. No
file that comes with the machine can be opened for what is in it.
-/
namespace GuestBridge.Posix

/-- A file of the machine: a library, a file that the dynamic loader refuses, or one that cannot be
opened. -/
inductive InstalledFile where
  | library (library : SystemLibrary)
  | refused (reason : String)
  | closed (cause : SystemError)
  deriving DecidableEq

namespace Installation

def steps (path : String) : List String := path.splitOn "/"

def links : List (List String × String) :=
  [("bin", "usr/bin"), ("sbin", "usr/sbin"), ("lib", "usr/lib"), ("lib64", "usr/lib64"),
    ("var/run", "/run"), ("var/lock", "/run/lock"), ("usr/local/man", "share/man")].map
      fun (short, long) => (steps short, long)

def workingDirectory : List String := ["work"]

def libraryDirectory : List String := ["usr", "lib", "x86_64-linux-gnu"]

def loaderDirectory : List String := ["usr", "lib64"]

def directories : List (List String) :=
  [[], workingDirectory, libraryDirectory, loaderDirectory] ++ (SystemLibrary.words [
    "boot dev etc home media mnt opt proc root run srv sys tmp usr var dev/mqueue dev/pts dev/shm",
    "etc/alternatives etc/apt etc/cron.daily etc/default etc/dpkg etc/init.d etc/ld.so.conf.d",
    "etc/opt etc/pam.d etc/profile.d etc/rc0.d etc/security etc/selinux etc/skel etc/ssl",
    "etc/systemd proc/bus proc/fs proc/irq proc/self proc/sys proc/tty run/lock sys/block sys/bus",
    "sys/class sys/dev sys/devices sys/firmware sys/fs sys/kernel sys/module sys/power usr/bin",
    "usr/games usr/include usr/lib usr/libexec usr/local usr/local/bin usr/local/etc",
    "usr/local/games usr/local/include usr/local/lib usr/local/sbin usr/local/share",
    "usr/local/share/man usr/local/src usr/sbin usr/share usr/src usr/lib/apt usr/lib/dpkg",
    "usr/lib/locale usr/share/doc usr/share/man usr/share/zoneinfo var/backups var/cache var/lib",
    "var/local var/log var/mail var/opt var/spool var/tmp"]).map steps

/-- Files with other things in them than objects. -/
def otherFiles : List (List String) :=
  (SystemLibrary.words [
    "dev/full dev/random dev/urandom dev/zero etc/bash.bashrc etc/group etc/hosts etc/ld.so.cache",
    "etc/login.defs etc/nsswitch.conf etc/os-release etc/passwd etc/profile etc/shadow",
    "proc/cpuinfo proc/filesystems proc/meminfo proc/mounts proc/self/maps proc/self/mounts",
    "proc/self/smaps proc/self/stat proc/self/status proc/stat proc/version proc/vmstat",
    "usr/lib/os-release"]).map steps

def shortFiles : List (List String) :=
  (SystemLibrary.words ["dev/null etc/debian_version etc/hostname etc/ld.so.conf proc/uptime"]).map
    steps

/-- Programs that lie wherever there is place, as shared objects do. -/
def programs : List (List String) :=
  (SystemLibrary.words [
    "proc/self/exe usr/bin/bash usr/bin/cat usr/bin/chmod usr/bin/cp usr/bin/dash usr/bin/date",
    "usr/bin/dd usr/bin/df usr/bin/echo usr/bin/env usr/bin/false usr/bin/find usr/bin/grep",
    "usr/bin/gzip usr/bin/head usr/bin/hostname usr/bin/id usr/bin/ln usr/bin/ls usr/bin/mkdir",
    "usr/bin/mount usr/bin/mv usr/bin/perl usr/bin/ps usr/bin/pwd usr/bin/rm usr/bin/rmdir",
    "usr/bin/sed usr/bin/sh usr/bin/sleep usr/bin/sort usr/bin/tail usr/bin/tar usr/bin/touch",
    "usr/bin/true usr/bin/uname usr/bin/wc usr/bin/whoami usr/bin/xargs usr/sbin/ldconfig"]).map
      steps

/-- Devices that only somebody at a terminal can open. -/
def terminals : List (List String) := [["dev", "tty"]]

def libraries : List (List String × InstalledFile) :=
  (loaderDirectory ++ [SystemLibrary.loader.name], .library .loader) ::
    SystemLibrary.installed.flatMap fun library =>
      (library.name :: library.aliases).map fun name =>
        (libraryDirectory ++ [name], .library library)

def files : List (List String × InstalledFile) :=
  libraries ++
    (SystemLibrary.scripts.map (libraryDirectory ++ [·]) ++ otherFiles).map
      (·, .refused "invalid ELF header") ++
    shortFiles.map (·, .refused "file too short") ++
    programs.map (·, .refused "cannot dynamically load position-independent executable") ++
    terminals.map (·, .closed .noSuchDevice)

def table : Array InstalledFile := (files.map (·.2)).toArray

def file? (file : FileId) : Option InstalledFile := table[file.index]?

def directoryId (path : List String) : DirectoryId := ⟨directories.idxOf path⟩

/-- Names with what they stand for, of all paths that lead to something in a directory. -/
def namesIn (directory : List String) (paths : List (List String × Node)) : List (String × Node) :=
  paths.filterMap fun (path, node) =>
    if path.dropLast = directory then path.getLast?.map (·, node) else none

def nodes : List (List String × Node) :=
  (directories.map fun path => (path, .directory (directoryId path))) ++
    (links.map fun (path, target) => (path, .link target)) ++
    files.zipIdx.map fun ((path, _), index) => (path, .file ⟨index⟩)

def tree : Tree where
  directories := (directories.map fun path =>
    { entries := namesIn path nodes
      parent := directoryId path.dropLast
      writable := path = workingDirectory : Directory }).toArray
  working := directoryId workingDirectory

def largestFile : Nat := Nat.pow 2 44 - pageSize

def system : System where
  files := Array.replicate files.length { readable := false, writable := false }
  tree := tree
  kernel := .limited largestFile

end Installation

end GuestBridge.Posix
