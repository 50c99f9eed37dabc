/-!
# Standard files

What any host has, wherever it is: directories, links, devices, a few programs, and files whose
text is of no account.  The names are those of the hierarchy that the hosts share.
-/

namespace ShellFailure.Shell

/-- A place among files: the names that lead to it from the root, the last one first. -/
abbrev Place := List String

/-- What is at a place. -/
inductive Entry
  | directory
  | file (text : String)
  /-- A file that may be run, which is no text. -/
  | program (name : String)
  /-- What comes in. -/
  | input
  /-- A terminal, where there is none. -/
  | terminal
  | link (target : Place)
  deriving DecidableEq, Repr

/-- The place of the working directory. -/
def workingDirectory : Place := ["work", "tmp"]

/-- The path of a place from the root. -/
def Place.path (p : Place) : String := "/" ++ "/".intercalate p.reverse

/-- The paths of directories. -/
def standardDirectories : List String :=
  ["/boot", "/dev", "/dev/mqueue", "/dev/pts", "/dev/shm", "/etc", "/etc/alternatives", "/etc/apt",
   "/etc/cron.d", "/etc/cron.daily", "/etc/default", "/etc/dpkg", "/etc/init.d", "/etc/kernel",
   "/etc/ld.so.conf.d", "/etc/logrotate.d", "/etc/opt", "/etc/pam.d", "/etc/profile.d",
   "/etc/security", "/etc/selinux", "/etc/skel", "/etc/ssl", "/etc/systemd", "/etc/terminfo",
   "/home", "/media", "/mnt", "/opt", "/proc", "/proc/1", "/proc/bus", "/proc/driver", "/proc/fs",
   "/proc/irq", "/proc/net", "/proc/self", "/proc/self/attr", "/proc/self/fd",
   "/proc/self/fdinfo", "/proc/self/net", "/proc/self/ns", "/proc/self/task", "/proc/sys",
   "/proc/sys/fs", "/proc/sys/kernel", "/proc/sys/net", "/proc/sys/vm", "/proc/sysvipc",
   "/proc/tty", "/root", "/run", "/run/lock", "/srv", "/sys", "/sys/block", "/sys/bus",
   "/sys/class", "/sys/dev", "/sys/devices", "/sys/firmware", "/sys/fs", "/sys/kernel",
   "/sys/module", "/sys/power", "/tmp", "/usr", "/usr/bin", "/usr/games", "/usr/include",
   "/usr/lib", "/usr/lib/apt", "/usr/lib/dpkg", "/usr/lib64", "/usr/libexec", "/usr/local",
   "/usr/local/bin", "/usr/local/etc", "/usr/local/games", "/usr/local/include",
   "/usr/local/lib", "/usr/local/sbin", "/usr/local/share", "/usr/local/share/man",
   "/usr/local/src", "/usr/sbin", "/usr/share", "/usr/share/doc", "/usr/share/info",
   "/usr/share/man", "/usr/share/misc", "/usr/src", "/var", "/var/backups", "/var/cache",
   "/var/lib", "/var/lib/apt", "/var/lib/dpkg", "/var/local", "/var/log", "/var/mail",
   "/var/opt", "/var/spool", "/var/tmp"]

/-- The paths of links, and the places they lead to. -/
def standardLinks : List (String × Place) :=
  [("/bin", ["bin", "usr"]), ("/sbin", ["sbin", "usr"]), ("/lib", ["lib", "usr"]),
   ("/lib64", ["lib64", "usr"]), ("/dev/fd", ["fd", "self", "proc"]),
   ("/dev/stdin", ["0", "fd", "self", "proc"]), ("/dev/stdout", ["1", "fd", "self", "proc"]),
   ("/dev/stderr", ["2", "fd", "self", "proc"]), ("/proc/self/cwd", workingDirectory),
   ("/proc/self/root", []), ("/proc/thread-self", ["self", "proc"]),
   ("/usr/local/man", ["man", "share", "local", "usr"]), ("/var/lock", ["lock", "run"]),
   ("/var/run", ["run"])]

/-- The paths of files that read as empty, or whose text is of no account. -/
def standardFiles : List String :=
  ["/dev/full", "/dev/null", "/dev/ptmx", "/dev/random", "/dev/urandom", "/dev/zero",
   "/etc/adduser.conf", "/etc/bash.bashrc",
   "/etc/deluser.conf", "/etc/environment", "/etc/fstab", "/etc/gai.conf", "/etc/group",
   "/etc/host.conf", "/etc/hostname", "/etc/hosts", "/etc/issue", "/etc/issue.net",
   "/etc/ld.so.cache", "/etc/ld.so.conf", "/etc/libaudit.conf", "/etc/localtime",
   "/etc/login.defs", "/etc/machine-id", "/etc/mtab", "/etc/nsswitch.conf", "/etc/os-release",
   "/etc/pam.conf", "/etc/passwd", "/etc/profile", "/etc/resolv.conf", "/etc/shadow",
   "/etc/shells", "/etc/subgid", "/etc/subuid", "/etc/timezone", "/etc/xattr.conf",
   "/proc/cmdline", "/proc/cpuinfo", "/proc/filesystems", "/proc/loadavg", "/proc/meminfo",
   "/proc/mounts", "/proc/self/cmdline", "/proc/self/comm", "/proc/self/environ",
   "/proc/self/fd/1", "/proc/self/fd/2", "/proc/self/limits", "/proc/self/maps",
   "/proc/self/mounts", "/proc/self/stat", "/proc/self/status", "/proc/stat", "/proc/uptime",
   "/proc/version", "/usr/lib/os-release"]

/-- The names of the programs. -/
def standardPrograms : List String :=
  ["bash", "cat", "chmod", "cp", "dash", "date", "dd", "df", "echo", "env", "false", "grep", "ln",
   "ls", "mkdir", "mv", "pwd", "rm", "rmdir", "sed", "sh", "sleep", "sort", "tar", "touch",
   "true", "uname"]

/-- What is at standard paths. -/
def standardEntries : List (String × Entry) :=
  standardDirectories.map (·, .directory) ++ standardLinks.map (fun (path, p) => (path, .link p)) ++
    standardPrograms.map (fun name => ("/usr/bin/" ++ name, .program name)) ++
    [("/proc/self/fd/0", .input), ("/proc/self/exe", .program "raise"), ("/dev/tty", .terminal)] ++
    standardFiles.map (·, .file "")

end ShellFailure.Shell
