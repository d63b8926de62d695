import Relocation.Machine.Naming

/-!
# The files of a plain machine

The directories, devices and programs that every machine has. What is seen under `/proc` is
made up by the kernel.
-/

namespace Relocation.Machine

namespace Kernel

/-- Put something at a path whose directory exists. -/
def install (kernel : Kernel) (path : Bytes) (content : Place → Content) (mode : Nat) : Kernel :=
  (kernel.make 0 path content mode).2

/-- Make a directory, unless there is one. -/
def withDirectory (kernel : Kernel) (path : Bytes) (mode : Nat := commonMode) : Kernel :=
  kernel.install (withoutSlashes path) (fun parent => .directory parent []) mode

/-- Put a file at a path. One that is there already gets a new content, also through symbolic
links. -/
def withFile (kernel : Kernel) (path bytes : Bytes) (mode : Nat := 0o644) : Kernel :=
  match kernel.spotOf 0 path with
  | .error _ => kernel
  | .ok spot =>
    let content : Content := .regular ⟨bytes.toArray⟩
    match spot.place? with
    | some (.inode number) => kernel.setContent number content
    | some _ => kernel
    | none =>
      match kernel.makeIn spot.directory spot.name content mode with
      | .ok (_, kernel) => kernel
      | .error _ => kernel

/-- Put a symbolic link at a path. -/
def withLink (kernel : Kernel) (path target : Bytes) : Kernel :=
  kernel.install path (fun _ => .link target) 0o777

/-- A kernel with nothing but the root and the directory in which processes are seen. -/
def bare : Kernel where
  inodes := #[
    { content := .directory root [(Bytes.ofString "proc", .inode 1)], mode := commonMode },
    { content := .directory root [], mode := 0o555 }]
  nextProcess := 1
  processRoot := 1

end Kernel

/-! ### Directories -/

/-- The directories that every machine has, each behind the one that holds it. -/
def standardDirectories : List String :=
  ["/boot", "/dev", "/dev/mqueue", "/dev/pts", "/dev/shm", "/etc", "/home", "/home/ubuntu",
    "/media", "/mnt", "/opt", "/root", "/run", "/run/lock", "/srv", "/sys", "/tmp", "/usr",
    "/usr/bin", "/usr/games", "/usr/include", "/usr/lib", "/usr/lib64", "/usr/libexec",
    "/usr/local", "/usr/local/bin", "/usr/local/etc", "/usr/local/games", "/usr/local/include",
    "/usr/local/lib", "/usr/local/sbin", "/usr/local/share", "/usr/local/src", "/usr/sbin",
    "/usr/share", "/usr/src", "/var", "/var/backups", "/var/cache", "/var/lib", "/var/local",
    "/var/log", "/var/mail", "/var/opt", "/var/spool", "/var/tmp"]

/-- The permissions of some directories. -/
def directoryModes : List (String × Nat) :=
  [("/tmp", 0o1777), ("/var/tmp", 0o1777), ("/dev/shm", 0o1777), ("/dev/mqueue", 0o1777),
    ("/root", 0o700), ("/sys", 0o555)]

/-- The symbolic links that every machine has. -/
def standardLinks : List (String × String) :=
  [("/bin", "usr/bin"), ("/lib", "usr/lib"), ("/lib64", "usr/lib64"), ("/sbin", "usr/sbin"),
    ("/var/lock", "/run/lock"), ("/var/run", "/run"), ("/usr/local/man", "share/man"),
    ("/dev/fd", "/proc/self/fd"), ("/dev/stdin", "/proc/self/fd/0"),
    ("/dev/stdout", "/proc/self/fd/1"), ("/dev/stderr", "/proc/self/fd/2"),
    ("/dev/core", "/proc/kcore"), ("/dev/ptmx", "pts/ptmx"), ("/usr/bin/sh", "dash")]

/-- The devices that every machine has. -/
def standardDevices : List (String × Device) :=
  [("/dev/null", .null), ("/dev/zero", .zero), ("/dev/full", .full), ("/dev/random", .random),
    ("/dev/urandom", .random), ("/dev/tty", .terminal)]

/-! ### Texts -/

/-- The users of every machine. -/
def users : List String := [
  "root:x:0:0:root:/root:/bin/bash",
  "daemon:x:1:1:daemon:/usr/sbin:/usr/sbin/nologin",
  "bin:x:2:2:bin:/bin:/usr/sbin/nologin",
  "sys:x:3:3:sys:/dev:/usr/sbin/nologin",
  "sync:x:4:65534:sync:/bin:/bin/sync",
  "games:x:5:60:games:/usr/games:/usr/sbin/nologin",
  "man:x:6:12:man:/var/cache/man:/usr/sbin/nologin",
  "lp:x:7:7:lp:/var/spool/lpd:/usr/sbin/nologin",
  "mail:x:8:8:mail:/var/mail:/usr/sbin/nologin",
  "news:x:9:9:news:/var/spool/news:/usr/sbin/nologin",
  "uucp:x:10:10:uucp:/var/spool/uucp:/usr/sbin/nologin",
  "proxy:x:13:13:proxy:/bin:/usr/sbin/nologin",
  "www-data:x:33:33:www-data:/var/www:/usr/sbin/nologin",
  "backup:x:34:34:backup:/var/backups:/usr/sbin/nologin",
  "list:x:38:38:Mailing List Manager:/var/list:/usr/sbin/nologin",
  "irc:x:39:39:ircd:/run/ircd:/usr/sbin/nologin",
  "_apt:x:42:65534::/nonexistent:/usr/sbin/nologin",
  "nobody:x:65534:65534:nobody:/nonexistent:/usr/sbin/nologin",
  "ubuntu:x:1000:1000:Ubuntu:/home/ubuntu:/bin/bash"]

/-- The texts that every machine has. -/
def standardTexts : List (String × String) :=
  [("/etc/passwd", String.join (users.map (· ++ "\n"))),
    ("/etc/group", "root:x:0:\ndaemon:x:1:\nbin:x:2:\nsys:x:3:\nnogroup:x:65534:\n"),
    ("/etc/hosts", "127.0.0.1\tlocalhost\n::1\tlocalhost ip6-localhost ip6-loopback\n"),
    ("/etc/shells", "# /etc/shells: valid login shells\n/bin/sh\n/usr/bin/sh\n/bin/dash\n" ++
      "/usr/bin/dash\n"),
    ("/etc/debian_version", "trixie/sid\n"),
    ("/etc/fstab", "# UNCONFIGURED FSTAB FOR BASE SYSTEM\n")]

/-! ### All of them -/

/-- The kernel of a machine with some programs. -/
def standardKernel (programs : List String) : Kernel :=
  let text := Bytes.ofString
  let kernel := standardDirectories.foldl (fun kernel path =>
    kernel.withDirectory (text path) ((directoryModes.lookup path).getD commonMode)) Kernel.bare
  let kernel := standardLinks.foldl (fun kernel (path, target) =>
    kernel.withLink (text path) (text target)) kernel
  let kernel := standardDevices.foldl (fun kernel (path, device) =>
    kernel.install (text path) (fun _ => .device device) 0o666) kernel
  let kernel := standardTexts.foldl (fun kernel (path, content) =>
    kernel.withFile (text path) (text content)) kernel
  programs.foldl (fun kernel name =>
    kernel.install (text ("/usr/bin/" ++ name)) (fun _ => .program (text name)) commonMode) kernel

end Relocation.Machine
