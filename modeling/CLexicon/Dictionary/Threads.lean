import CLexicon.Dictionary.Layout

/-!
# Threads

The names for threads, mutexes, condition variables and thread storage.
-/

namespace CLexicon.Dictionary

/-- The names for threads, mutexes, condition variables and thread storage. -/
def threads : List RawItem := [
  { id := "id-thrd_create", token := "thrd_create", category := .identifier,
    description := paragraph [
      "Creates a new thread executing `func(arg)` and stores the thread",
      "identifier in\n`*thr`. Returns `thrd_success` on success."],
    sample := some <| lines [
      "#include <threads.h>",
      "#include <stdio.h>",
      "",
      "int worker(void *arg) \x7b printf(\"%s\\n\", (const char *)arg); return 0; \x7d",
      "",
      "thrd_t t;",
      "int r = thrd_create(&t, worker, (void *)\"hi\"); // r == thrd_success",
      "thrd_join(t, NULL);"] },
  { id := "id-thrd_current", token := "thrd_current", category := .identifier,
    description :=
      "Returns the identifier of the calling thread.",
    sample := some <| lines [
      "#include <threads.h>",
      "thrd_t self = thrd_current();"] },
  { id := "id-thrd_detach", token := "thrd_detach", category := .identifier,
    description := paragraph [
      "Detaches a thread so that its resources are released automatically",
      "on exit."],
    sample := some <| lines [
      "#include <threads.h>",
      "thrd_t t; /* created earlier */",
      "int r = thrd_detach(t); // r == thrd_success"] },
  { id := "id-thrd_equal", token := "thrd_equal", category := .identifier,
    description := paragraph [
      "Compares two thread identifiers for equality. Returns nonzero if",
      "equal."],
    sample := some <| lines [
      "#include <threads.h>",
      "thrd_t a = thrd_current();",
      "int same = thrd_equal(a, thrd_current()); // same != 0"] },
  { id := "id-thrd_exit", token := "thrd_exit", category := .identifier,
    description := paragraph [
      "Terminates the calling thread, making `res` available to",
      "`thrd_join`."],
    sample := some <| lines [
      "#include <threads.h>",
      "thrd_exit(0);"] },
  { id := "id-thrd_join", token := "thrd_join", category := .identifier,
    description := paragraph [
      "Joins with a terminated thread and retrieves its exit code in",
      "`*res` if not\n`NULL`. Returns `thrd_success` on success."],
    sample := some <| lines [
      "#include <threads.h>",
      "int res; thrd_t t; /* created earlier */",
      "int r = thrd_join(t, &res); // r == thrd_success"] },
  { id := "id-thrd_sleep", token := "thrd_sleep", category := .identifier,
    description := paragraph [
      "Sleeps for the specified `timespec` duration, optionally returning",
      "remaining\ntime in `rem`. Returns 0 if the requested time has",
      "elapsed."],
    sample := some <| lines [
      "#include <threads.h>",
      "struct timespec ts = \x7b .tv_sec = 0, .tv_nsec = 1000000 \x7d; // 1ms",
      "thrd_sleep(&ts, NULL);"] },
  { id := "id-thrd_yield", token := "thrd_yield", category := .identifier,
    description :=
      "Hints to the scheduler to yield execution to another thread.",
    sample := some <| lines [
      "#include <threads.h>",
      "thrd_yield();"] },
  { id := "id-thrd_t", token := "thrd_t", category := .identifier,
    description :=
      "Type of a thread identifier.",
    sample := some <| lines [
      "#include <threads.h>",
      "thrd_t t;"] },
  { id := "id-thrd_start_t", token := "thrd_start_t", category := .identifier,
    description :=
      "Function pointer type for thread start routines: `int (*)(void *)`.",
    sample := some <| lines [
      "#include <threads.h>",
      "int fn(void *p) \x7b return 0; \x7d",
      "thrd_start_t start = fn;"] },
  { id := "id-thrd_success", token := "thrd_success", category := .identifier,
    description := paragraph [
      "Return value indicating a successful threads operation (typically",
      "0)."],
    sample := some <| lines [
      "#include <threads.h>",
      "int r = thrd_success; // r == 0"] },
  { id := "id-thrd_timedout", token := "thrd_timedout",
    category := .identifier,
    description :=
      "Return value indicating a timed-out threads operation.",
    sample := some <| lines [
      "#include <threads.h>",
      "int r = thrd_timedout;"] },
  { id := "id-thrd_busy", token := "thrd_busy", category := .identifier,
    description := paragraph [
      "Return value indicating the resource is busy in a threads",
      "operation."],
    sample := some <| lines [
      "#include <threads.h>",
      "int r = thrd_busy;"] },
  { id := "id-thrd_error", token := "thrd_error", category := .identifier,
    description :=
      "Return value indicating an error in a threads operation.",
    sample := some <| lines [
      "#include <threads.h>",
      "int r = thrd_error;"] },
  { id := "id-thrd_nomem", token := "thrd_nomem", category := .identifier,
    description := paragraph [
      "Return value indicating memory allocation failure in a threads",
      "operation."],
    sample := some <| lines [
      "#include <threads.h>",
      "int r = thrd_nomem;"] },
  { id := "id-mtx_init", token := "mtx_init", category := .identifier,
    description := paragraph [
      "Initializes a mutex `*mtx` with the given type flags",
      "(`mtx_plain`,\n`mtx_timed`, `mtx_recursive`). Returns",
      "`thrd_success` on success."],
    sample := some <| lines [
      "#include <threads.h>",
      "mtx_t m;",
      "int r = mtx_init(&m, mtx_plain); // r == thrd_success"] },
  { id := "id-mtx_destroy", token := "mtx_destroy", category := .identifier,
    description :=
      "Destroys a mutex and releases associated resources.",
    sample := some <| lines [
      "#include <threads.h>",
      "mtx_t m; /* initialized earlier */",
      "mtx_destroy(&m);"] },
  { id := "id-mtx_lock", token := "mtx_lock", category := .identifier,
    description := paragraph [
      "Locks a mutex, blocking until it becomes available. Returns",
      "`thrd_success` on\nsuccess."],
    sample := some <| lines [
      "#include <threads.h>",
      "mtx_t m; /* initialized */",
      "mtx_lock(&m);",
      "// critical section",
      "mtx_unlock(&m);"] },
  { id := "id-mtx_trylock", token := "mtx_trylock", category := .identifier,
    description := paragraph [
      "Attempts to lock a mutex without blocking. Returns `thrd_success`",
      "if the lock\nwas acquired, `thrd_busy` if already locked."],
    sample := some <| lines [
      "#include <threads.h>",
      "mtx_t m; /* initialized */",
      "int r = mtx_trylock(&m);"] },
  { id := "id-mtx_timedlock", token := "mtx_timedlock",
    category := .identifier,
    description := paragraph [
      "Attempts to lock a mutex until the specified absolute time.",
      "Returns\n`thrd_success` on success, `thrd_timedout` if the time",
      "expires."],
    sample := some <| lines [
      "#include <threads.h>",
      "struct timespec ts = \x7b .tv_sec = 1, .tv_nsec = 0 \x7d;",
      "mtx_t m; /* initialized */",
      "int r = mtx_timedlock(&m, &ts);"] },
  { id := "id-mtx_unlock", token := "mtx_unlock", category := .identifier,
    description :=
      "Unlocks a mutex previously locked by the calling thread.",
    sample := some <| lines [
      "#include <threads.h>",
      "mtx_t m; /* locked earlier */",
      "mtx_unlock(&m);"] },
  { id := "id-mtx_t", token := "mtx_t", category := .identifier,
    description :=
      "Type representing a mutex object.",
    sample := some <| lines [
      "#include <threads.h>",
      "mtx_t m;"] },
  { id := "id-mtx_plain", token := "mtx_plain", category := .identifier,
    description := paragraph [
      "Mutex type flag for a plain (non-recursive, possibly non-timed)",
      "mutex."],
    sample := some <| lines [
      "#include <threads.h>",
      "int flags = mtx_plain;"] },
  { id := "id-mtx_timed", token := "mtx_timed", category := .identifier,
    description := paragraph [
      "Mutex type flag indicating support for timed locking",
      "(`mtx_timedlock`)."],
    sample := some <| lines [
      "#include <threads.h>",
      "int flags = mtx_timed;"] },
  { id := "id-mtx_recursive", token := "mtx_recursive",
    category := .identifier,
    description :=
      "Mutex type flag indicating a recursive mutex.",
    sample := some <| lines [
      "#include <threads.h>",
      "int flags = mtx_recursive;"] },
  { id := "id-cnd_init", token := "cnd_init", category := .identifier,
    description := paragraph [
      "Initializes a condition variable. Returns `thrd_success` on",
      "success."],
    sample := some <| lines [
      "#include <threads.h>",
      "cnd_t cv; int r = cnd_init(&cv); // r == thrd_success"] },
  { id := "id-cnd_destroy", token := "cnd_destroy", category := .identifier,
    description :=
      "Destroys a condition variable and releases resources.",
    sample := some <| lines [
      "#include <threads.h>",
      "cnd_t cv; /* initialized */",
      "cnd_destroy(&cv);"] },
  { id := "id-cnd_signal", token := "cnd_signal", category := .identifier,
    description :=
      "Unblocks one thread waiting on the condition variable.",
    sample := some <| lines [
      "#include <threads.h>",
      "cnd_t cv; /* initialized */",
      "cnd_signal(&cv);"] },
  { id := "id-cnd_broadcast", token := "cnd_broadcast",
    category := .identifier,
    description :=
      "Unblocks all threads waiting on the condition variable.",
    sample := some <| lines [
      "#include <threads.h>",
      "cnd_t cv; /* initialized */",
      "cnd_broadcast(&cv);"] },
  { id := "id-cnd_wait", token := "cnd_wait", category := .identifier,
    description := paragraph [
      "Atomically releases the mutex and blocks until signaled, then",
      "re-acquires the\nmutex before returning."],
    sample := some <| lines [
      "#include <threads.h>",
      "cnd_t cv; mtx_t m; /* initialized */",
      "mtx_lock(&m);",
      "cnd_wait(&cv, &m);",
      "mtx_unlock(&m);"] },
  { id := "id-cnd_timedwait", token := "cnd_timedwait",
    category := .identifier,
    description := paragraph [
      "Like `cnd_wait` but times out at the specified absolute time.",
      "Returns\n`thrd_success` on success, `thrd_timedout` if timed out."],
    sample := some <| lines [
      "#include <threads.h>",
      "struct timespec ts = \x7b .tv_sec = 1, .tv_nsec = 0 \x7d;",
      "cnd_t cv; mtx_t m; /* initialized */",
      "mtx_lock(&m);",
      "int r = cnd_timedwait(&cv, &m, &ts);",
      "mtx_unlock(&m);"] },
  { id := "id-cnd_t", token := "cnd_t", category := .identifier,
    description :=
      "Type representing a condition variable.",
    sample := some <| lines [
      "#include <threads.h>",
      "cnd_t cv;"] },
  { id := "id-tss_create", token := "tss_create", category := .identifier,
    description := paragraph [
      "Creates a thread-specific storage (TLS) key, with optional",
      "destructor. Returns\n`thrd_success` on success."],
    sample := some <| lines [
      "#include <threads.h>",
      "tss_t key;",
      "int r = tss_create(&key, NULL); // r == thrd_success"] },
  { id := "id-tss_delete", token := "tss_delete", category := .identifier,
    description :=
      "Deletes a TLS key created by `tss_create`.",
    sample := some <| lines [
      "#include <threads.h>",
      "tss_t key; /* created earlier */",
      "tss_delete(key);"] },
  { id := "id-tss_get", token := "tss_get", category := .identifier,
    description :=
      "Retrieves the thread-specific value associated with the TLS key.",
    sample := some <| lines [
      "#include <threads.h>",
      "tss_t key; /* created earlier */",
      "void *p = tss_get(key);"] },
  { id := "id-tss_set", token := "tss_set", category := .identifier,
    description := paragraph [
      "Sets the thread-specific value for the TLS key. Returns",
      "`thrd_success` on success."],
    sample := some <| lines [
      "#include <threads.h>",
      "tss_t key; /* created earlier */",
      "int r = tss_set(key, (void*)0x1234);"] },
  { id := "id-tss_t", token := "tss_t", category := .identifier,
    description :=
      "Type representing a TLS key.",
    sample := some <| lines [
      "#include <threads.h>",
      "tss_t key;"] },
  { id := "id-once_flag", token := "once_flag", category := .identifier,
    description := paragraph [
      "Flag object used with `call_once` to ensure a function is executed",
      "only once.\nMust be initialized with `ONCE_FLAG_INIT`."],
    sample := some <| lines [
      "#include <threads.h>",
      "once_flag flag = ONCE_FLAG_INIT;"] },
  { id := "id-call_once", token := "call_once", category := .identifier,
    description := paragraph [
      "Executes the specified function exactly once across all threads",
      "using an\nassociated `once_flag`."],
    sample := some <| lines [
      "#include <threads.h>",
      "void init(void) \x7b /* one-time init */ \x7d",
      "once_flag flag = ONCE_FLAG_INIT;",
      "call_once(&flag, init);"] }]

end CLexicon.Dictionary
