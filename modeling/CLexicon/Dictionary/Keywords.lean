import CLexicon.Dictionary.Layout

/-!
# Keywords

The keywords of C.
-/

namespace CLexicon.Dictionary

/-- The keywords of C. -/
def keywords : List RawItem := [
  { id := "kw-auto", token := "auto", category := .keyword,
    description := paragraph [
      "Storage class specifier for automatic variables (block scope,",
      "automatic storage duration). Local variables declared inside a",
      "block are automatic; storage is allocated on entry and released on",
      "exit. Because non-static locals are automatic by default, writing",
      "`auto` is redundant in C."],
    sample := some <| lines [
      "void f(void) \x7b",
      "    auto int x = 10;  // equivalent to: int x = 10;",
      "\x7d"] },
  { id := "kw-break", token := "break", category := .keyword,
    description := paragraph [
      "Immediately terminates the nearest enclosing `switch`, `for`,",
      "`while`, or `do` loop and transfers control to the statement",
      "following it."],
    sample := some <| lines [
      "for (int i = 0; i < 10; i++) \x7b",
      "    if (i == 5) \x7b",
      "        break; // exits the loop when i is 5",
      "    \x7d",
      "\x7d"] },
  { id := "kw-case", token := "case", category := .keyword,
    description := paragraph [
      "Labels a branch inside a `switch` statement for a matching",
      "constant expression value. Must be used within `switch`."],
    sample := some <| lines [
      "int n = 2;",
      "switch (n) \x7b",
      "    case 1: /* ... */ break;",
      "    case 2: /* ... */ break;",
      "    default: /* ... */ break;",
      "\x7d"] },
  { id := "kw-char", token := "char", category := .keyword,
    description := paragraph [
      "Integer type typically used to store character codes. Signedness",
      "is implementation-defined (`char` may be signed or unsigned).",
      "`signed char` and `unsigned char` are distinct types."],
    sample := some
      "char letter = 'A';" },
  { id := "kw-const", token := "const", category := .keyword,
    description := paragraph [
      "Qualifies an object or pointer target as read-only. Attempts to",
      "modify a `const` object result in undefined behavior. Does not",
      "imply static storage."],
    sample := some
      "const int limit = 10;  /* cannot be modified */" },
  { id := "kw-continue", token := "continue", category := .keyword,
    description := paragraph [
      "Skips to the next iteration of the nearest enclosing loop. In",
      "`for` loops, the increment expression is evaluated before the next",
      "condition check."],
    sample := some <| lines [
      "for (int i = 0; i < 5; i++) \x7b",
      "    if (i == 2) continue;  // skip printing 2",
      "\x7d"] },
  { id := "kw-default", token := "default", category := .keyword,
    description := paragraph [
      "Specifies the fallback branch in a `switch` when no `case`",
      "matches. At most one `default` per `switch`."],
    sample := some <| lines [
      "switch (getchar()) \x7b",
      "    case 'y': /* ... */ break;",
      "    case 'n': /* ... */ break;",
      "    default:  /* ... */ break;",
      "\x7d"] },
  { id := "kw-do", token := "do", category := .keyword,
    description := paragraph [
      "Starts a `do`-`while` loop, which executes the body at least once",
      "before testing the condition."],
    sample := some <| lines [
      "int i = 0;",
      "do \x7b",
      "    /* body */",
      "    i++;",
      "\x7d while (i < 5);"] },
  { id := "kw-double", token := "double", category := .keyword,
    description := paragraph [
      "Double-precision floating-point type. `long double` may offer",
      "greater precision; `float` offers less."],
    sample := some
      "double pi = 3.141592653589793;" },
  { id := "kw-else", token := "else", category := .keyword,
    description := paragraph [
      "Introduces the alternative branch of an `if` statement when the",
      "condition is false. Pairs with the nearest unmatched `if`."],
    sample := some <| lines [
      "int x = 3;",
      "if (x > 0) \x7b",
      "    /* ... */",
      "\x7d else \x7b",
      "    /* ... */",
      "\x7d"] },
  { id := "kw-enum", token := "enum", category := .keyword,
    description := paragraph [
      "Defines an enumeration type with named integer constants.",
      "Enumerator values are `int` compatible and may be explicitly",
      "assigned."],
    sample := some <| lines [
      "enum Color \x7b RED = 0, GREEN = 1, BLUE = 2 \x7d;",
      "enum Color c = GREEN;"] },
  { id := "kw-extern", token := "extern", category := .keyword,
    description := paragraph [
      "Declares an identifier with external linkage defined elsewhere.",
      "Commonly used for variables or functions defined in another",
      "translation unit."],
    sample := some <| lines [
      "/* file1.c */",
      "int counter = 0;  // definition",
      "",
      "/* file2.c */",
      "extern int counter;  // declaration"] },
  { id := "kw-float", token := "float", category := .keyword,
    description :=
      "Single-precision floating-point type.",
    sample := some
      "float ratio = 0.5f;" },
  { id := "kw-for", token := "for", category := .keyword,
    description := paragraph [
      "Creates a counted loop with initializer, condition, and iteration",
      "expressions. Any component may be omitted; expressions evaluate",
      "left-to-right each iteration."],
    sample := some <| lines [
      "for (int i = 0; i < 5; i++) \x7b",
      "    /* body */",
      "\x7d"] },
  { id := "kw-goto", token := "goto", category := .keyword,
    description := paragraph [
      "Transfers control to a labeled statement within the same function.",
      "Use sparingly; you cannot jump into the scope of a variable in a",
      "way that skips its initialization."],
    sample := some <| lines [
      "int i = 0;",
      "start:",
      "if (++i <= 3) goto start;  // loops 3 times"] },
  { id := "kw-if", token := "if", category := .keyword,
    description := paragraph [
      "Executes a statement/compound-statement conditionally. `else`",
      "binds to the nearest unmatched `if`."],
    sample := some <| lines [
      "int x = 5;",
      "if (x > 0) \x7b",
      "    /* ... */",
      "\x7d else if (x < 0) \x7b",
      "    /* ... */",
      "\x7d else \x7b",
      "    /* ... */",
      "\x7d"] },
  { id := "kw-inline", token := "inline", category := .keyword,
    description := paragraph [
      "Suggests that calls to a function be inlined; also affects linkage",
      "rules for function definitions in headers. Prefer `static inline`",
      "for header-only helpers and provide one external (non-inline)",
      "definition if needed."],
    sample := some
      "static inline int sqr(int x) \x7b return x * x; \x7d" },
  { id := "kw-int", token := "int", category := .keyword,
    description := paragraph [
      "Signed integer type. Width is implementation-defined (at least 16",
      "bits, commonly 32)."],
    sample := some
      "int count = 42;" },
  { id := "kw-long", token := "long", category := .keyword,
    description := paragraph [
      "Integer type wider than or equal to `int` (at least 32 bits).",
      "Width varies by platform/ABI (`long` is 64-bit on LP64, 32-bit on",
      "LLP64)."],
    sample := some
      "long total = 0L;" },
  { id := "kw-register", token := "register", category := .keyword,
    description := paragraph [
      "Obsolete hint to place a variable in a CPU register. Taking the",
      "address of a `register` variable is not allowed."],
    sample := some
      "register int i;" },
  { id := "kw-restrict", token := "restrict", category := .keyword,
    description := paragraph [
      "Pointer qualifier promising that, for the lifetime of the pointer,",
      "the object it points to is accessed only through that pointer (or",
      "values derived from it). Enables aliasing optimizations. Applies",
      "to pointers only."],
    sample := some <| lines [
      "void add_arrays(size_t n, const float *restrict a,",
      "                const float *restrict b, float *restrict out) \x7b",
      "    for (size_t i = 0; i < n; i++) out[i] = a[i] + b[i];",
      "\x7d"] },
  { id := "kw-return", token := "return", category := .keyword,
    description := paragraph [
      "Terminates the current function. In non-`void` functions, `return`",
      "must include an expression yielding the result. In `void`",
      "functions, `return;` returns no value."],
    sample := some
      "int add(int a, int b) \x7b return a + b; \x7d" },
  { id := "kw-short", token := "short", category := .keyword,
    description :=
      "`short int` type, at least 16 bits. May be `signed` or `unsigned`.",
    sample := some
      "short s = 123;" },
  { id := "kw-signed", token := "signed", category := .keyword,
    description := paragraph [
      "Type modifier indicating a signed integer type. Default for `char`",
      "is implementation-defined; `signed char` and `unsigned char` are",
      "distinct types."],
    sample := some
      "signed int temperature = -5;" },
  { id := "kw-sizeof", token := "sizeof", category := .keyword,
    description := paragraph [
      "Operator yielding the size in bytes of a type or expression (type",
      "`size_t`). Its operand is not evaluated, except when applied to a",
      "variable length array type."],
    sample := some
      "size_t n = sizeof(int);" },
  { id := "kw-static", token := "static", category := .keyword,
    description := paragraph [
      "At block scope: gives a variable static storage duration (retains",
      "value across calls, zero-initialized). At file scope: gives",
      "internal linkage (not visible outside the translation unit)."],
    sample := some <| lines [
      "static int file_private;",
      "",
      "void counter(void) \x7b",
      "    static int count;  // persists across calls",
      "    count++;",
      "\x7d"] },
  { id := "kw-struct", token := "struct", category := .keyword,
    description :=
      "Defines a structure type aggregating named members.",
    sample := some <| lines [
      "struct Point \x7b int x; int y; \x7d;",
      "struct Point p = \x7b .x = 1, .y = 2 \x7d;"] },
  { id := "kw-switch", token := "switch", category := .keyword,
    description := paragraph [
      "Multi-way branch on an integer-controlled expression. `case`",
      "labels must be constant integer expressions and unique; use",
      "`break` to avoid fallthrough."],
    sample := some <| lines [
      "switch (c) \x7b",
      "    case 'a': /* ... */ break;",
      "    case 'b': /* ... */ break;",
      "    default:  /* ... */ break;",
      "\x7d"] },
  { id := "kw-typedef", token := "typedef", category := .keyword,
    description :=
      "Creates an alias for a type. Does not create a distinct type.",
    sample := some
      "typedef unsigned long ulong;" },
  { id := "kw-union", token := "union", category := .keyword,
    description := paragraph [
      "Defines a union type whose members share the same storage. Only",
      "the most recently written member has a valid value."],
    sample := some <| lines [
      "union U \x7b int i; float f; \x7d;",
      "union U u; u.i = 42;  // u.f then has indeterminate value"] },
  { id := "kw-unsigned", token := "unsigned", category := .keyword,
    description := paragraph [
      "Type modifier for unsigned integer types (no negative values;",
      "modulo arithmetic)."],
    sample := some
      "unsigned int u = 10u;" },
  { id := "kw-void", token := "void", category := .keyword,
    description := paragraph [
      "Indicates no value (function return type) or an unknown object",
      "type (`void *`). Objects of type `void` cannot be declared."],
    sample := some <| lines [
      "void log_message(const char *s);",
      "void *p = NULL;"] },
  { id := "kw-volatile", token := "volatile", category := .keyword,
    description := paragraph [
      "Type qualifier indicating that an object may be changed by factors",
      "outside the program. Inhibits certain optimizations. Not a",
      "substitute for atomicity or synchronization."],
    sample := some
      "volatile int flag;" },
  { id := "kw-while", token := "while", category := .keyword,
    description :=
      "Pre-test loop that repeats while the condition is nonzero.",
    sample := some <| lines [
      "int i = 0;",
      "while (i < 3) \x7b i++; \x7d"] },
  { id := "kw-_alignas", token := "_Alignas", category := .keyword,
    description := paragraph [
      "Specifies the alignment requirement of an object or member (may",
      "increase, not decrease, alignment). See `<stdalign.h>` for",
      "standard alignment macros."],
    sample := some
      "_Alignas(16) unsigned char buf[64];" },
  { id := "kw-_alignof", token := "_Alignof", category := .keyword,
    description := paragraph [
      "Yields the alignment requirement (in bytes) of a type; result type",
      "is `size_t`."],
    sample := some
      "size_t a = _Alignof(double);" },
  { id := "kw-_atomic", token := "_Atomic", category := .keyword,
    description := paragraph [
      "Type qualifier/specifier for atomic types. Use `_Atomic(T)` or `T",
      "_Atomic` with `<stdatomic.h>` operations to perform lock-free or",
      "atomic accesses."],
    sample := some <| lines [
      "#include <stdatomic.h>",
      "_Atomic int counter = 0;"] },
  { id := "kw-_bitint", token := "_BitInt", category := .keyword,
    description := paragraph [
      "Bit-precise integer type introduced in C23: `_BitInt(N)` and",
      "`unsigned _BitInt(N)` provide integers with exactly `N` value bits",
      "(where supported by the implementation)."],
    sample := some
      "unsigned _BitInt(17) x = 0u;" },
  { id := "kw-_bool", token := "_Bool", category := .keyword,
    description := paragraph [
      "Boolean type with values 0 and 1. Include `<stdbool.h>` to use the",
      "aliases `bool`, `true`, and `false`."],
    sample := some <| lines [
      "#include <stdbool.h>",
      "bool ok = true;"] },
  { id := "kw-_complex", token := "_Complex", category := .keyword,
    description := paragraph [
      "Complex number type qualifier introduced in C99. Use with a real",
      "floating type (e.g., `double _Complex`). Operations and helpers",
      "are provided by `<complex.h>`."],
    sample := some <| lines [
      "#include <complex.h>",
      "double _Complex z = 1.0 + 2.0 * I;",
      "double r = creal(z), im = cimag(z);"] },
  { id := "kw-_generic", token := "_Generic", category := .keyword,
    description := paragraph [
      "C11 compile-time generic selection that chooses an expression",
      "based on the type of a controlling expression. Useful for",
      "type-generic macros."],
    sample := some <| lines [
      "#define type_name(x) _Generic((x), \\",
      "    int: \"int\", \\",
      "    double: \"double\", \\",
      "    default: \"other\")"] },
  { id := "kw-_imaginary", token := "_Imaginary", category := .keyword,
    description := paragraph [
      "Imaginary-only floating type qualifier from C99. Rarely",
      "implemented and seldom used; `<complex.h>` complex types are",
      "generally preferred."],
    sample := some
      "double _Imaginary y = 2.0 * I;  // if supported" },
  { id := "kw-_noreturn", token := "_Noreturn", category := .keyword,
    description := paragraph [
      "Function specifier indicating that a function does not return to",
      "its caller. Typically used on functions that terminate the program",
      "or never return."],
    sample := some <| lines [
      "#include <stdlib.h>",
      "_Noreturn void die(void) \x7b exit(1); \x7d"] },
  { id := "kw-_static_assert", token := "_Static_assert",
    category := .keyword,
    description := paragraph [
      "C11 compile-time assertion. First argument is a constant",
      "expression; second is a string literal message shown on failure."],
    sample := some
      "_Static_assert(sizeof(void*) >= 4, \"Pointer too small\");" },
  { id := "kw-_thread_local", token := "_Thread_local", category := .keyword,
    description := paragraph [
      "Specifies thread storage duration: each thread has its own",
      "instance initialized at thread start. Use with `static` or",
      "`extern` as needed. Deprecated in C23 in favor of `thread_local`."],
    sample := some
      "_Thread_local int tls_counter;" }]

end CLexicon.Dictionary
