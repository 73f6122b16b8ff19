import CLexicon.Dictionary.Layout

/-!
# Library functions, S to W

The functions and types of the standard library whose names start with `s` to
`w`.
-/

namespace CLexicon.Dictionary

/-- The functions and types of the standard library whose names start with `s` to
`w`. -/
def functionsSToW : List RawItem := [
  { id := "id-scanf", token := "scanf", category := .identifier,
    description := paragraph [
      "Reads formatted input from `stdin` and stores the parsed values",
      "into the provided\naddresses. Returns the number of items",
      "successfully assigned."],
    sample := some <| lines [
      "#include <stdio.h>",
      "int x; char word[16];",
      "// If user types: 42 hello<Enter>",
      "int n = scanf(\"%d %15s\", &x, word);",
      "// n == 2, x == 42, word == \"hello\""] },
  { id := "id-setbuf", token := "setbuf", category := .identifier,
    description := paragraph [
      "Sets the buffer for a stream. If `buf` is `NULL`, the stream is",
      "unbuffered;\notherwise uses the provided buffer (size `BUFSIZ`)."],
    sample := some <| lines [
      "#include <stdio.h>",
      "static char buf[BUFSIZ];",
      "setbuf(stdout, buf); // stdout now uses 'buf' as its buffer"] },
  { id := "id-setjmp", token := "setjmp", category := .identifier,
    description := paragraph [
      "Saves the calling environment in `jmp_buf` for later use by",
      "`longjmp`. Returns 0\non initial call, and returns the value",
      "passed to `longjmp` when jumping back."],
    sample := some <| lines [
      "#include <setjmp.h>",
      "#include <stdio.h>",
      "",
      "jmp_buf env;",
      "",
      "int main(void) \x7b",
      "    int r = setjmp(env);",
      "    if (r == 0) \x7b",
      "        // later some function may call longjmp(env, 123);",
      "        printf(\"saved env\\n\");",
      "    \x7d else \x7b",
      "        printf(\"returned via longjmp with %d\\n\", r); // e.g., 123",
      "    \x7d",
      "    return 0;",
      "\x7d"] },
  { id := "id-setlocale", token := "setlocale", category := .identifier,
    description := paragraph [
      "Sets or queries the program's current locale. Returns a string",
      "naming the new\nlocale or `NULL` on failure."],
    sample := some <| lines [
      "#include <locale.h>",
      "const char *loc = setlocale(LC_ALL, \"C\"); // loc == \"C\""] },
  { id := "id-setvbuf", token := "setvbuf", category := .identifier,
    description := paragraph [
      "Sets the buffering mode and buffer for a stream: `_IOFBF` (full),",
      "`_IOLBF`\n(line), or `_IONBF` (none). Returns 0 on success."],
    sample := some <| lines [
      "#include <stdio.h>",
      "static char buf[1024];",
      "int r = setvbuf(stdout, buf, _IOLBF, sizeof(buf)); // r == 0"] },
  { id := "id-signal", token := "signal", category := .identifier,
    description := paragraph [
      "Sets a signal handler for the specified signal and returns the",
      "previous handler\non success, or `SIG_ERR` on error."],
    sample := some <| lines [
      "#include <signal.h>",
      "#include <stdio.h>",
      "",
      "void handler(int s) \x7b printf(\"caught %d\\n\", s); \x7d",
      "void (*prev)(int) = signal(SIGINT, handler);",
      "// raising SIGINT will print: caught 2"] },
  { id := "id-sig_atomic_t", token := "sig_atomic_t", category := .identifier,
    description := paragraph [
      "An integer type that can be read and written atomically, safe to",
      "use in signal\nhandlers."],
    sample := some <| lines [
      "#include <signal.h>",
      "volatile sig_atomic_t flag = 0;",
      "void handler(int s) \x7b flag = 1; \x7d"] },
  { id := "id-sin", token := "sin", category := .identifier,
    description :=
      "Returns the sine of `x` (in radians) as a `double`.",
    sample := some <| lines [
      "#include <math.h>",
      "double r = sin(M_PI / 2); // r == 1.0"] },
  { id := "id-sinf", token := "sinf", category := .identifier,
    description :=
      "Float version of `sin`.",
    sample := some <| lines [
      "#include <math.h>",
      "float r = sinf((float)M_PI / 2.0f); // r == 1.0f"] },
  { id := "id-sinh", token := "sinh", category := .identifier,
    description :=
      "Returns the hyperbolic sine of `x` as a `double`.",
    sample := some <| lines [
      "#include <math.h>",
      "double r = sinh(0.0); // r == 0.0"] },
  { id := "id-sinhf", token := "sinhf", category := .identifier,
    description :=
      "Float version of `sinh`.",
    sample := some <| lines [
      "#include <math.h>",
      "float r = sinhf(1.0f); // r ~= 1.175201f"] },
  { id := "id-sinhl", token := "sinhl", category := .identifier,
    description :=
      "Long double version of `sinh`.",
    sample := some <| lines [
      "#include <math.h>",
      "long double r = sinhl(1.0L); // r ~= 1.175201L"] },
  { id := "id-sinl", token := "sinl", category := .identifier,
    description :=
      "Long double version of `sin`.",
    sample := some <| lines [
      "#include <math.h>",
      "long double r = sinl(0.0L); // r == 0.0L"] },
  { id := "id-size_t", token := "size_t", category := .identifier,
    description := paragraph [
      "Unsigned integer type used for sizes and counts, returned by",
      "`sizeof`."],
    sample := some <| lines [
      "#include <stdio.h>",
      "size_t n = sizeof(int); // typically 4",
      "printf(\"%zu\\n\", n);"] },
  { id := "id-snprintf", token := "snprintf", category := .identifier,
    description := paragraph [
      "Writes formatted output to a buffer, up to `size` bytes including",
      "the null\nterminator. Returns the number of characters that would",
      "have been written\nexcluding the null terminator."],
    sample := some <| lines [
      "#include <stdio.h>",
      "char buf[8];",
      "int n = snprintf(buf, sizeof(buf), \"%s %d\", \"hi\", 42);",
      "// buf == \"hi 42\\0\" (fits), n == 5"] },
  { id := "id-sprintf", token := "sprintf", category := .identifier,
    description := paragraph [
      "Writes formatted output to a string. Returns the number of",
      "characters written\nexcluding the null terminator. Use `snprintf`",
      "to avoid overflow."],
    sample := some <| lines [
      "#include <stdio.h>",
      "char buf[16];",
      "int n = sprintf(buf, \"%d-%s\", 7, \"ok\");",
      "// buf == \"7-ok\\0\", n == 4"] },
  { id := "id-sqrt", token := "sqrt", category := .identifier,
    description := paragraph [
      "Returns the non-negative square root of `x` as a `double`. Domain:",
      "`x >= 0`\nfor real results; negative `x` yields NaN on IEEE-754",
      "systems."],
    sample := some <| lines [
      "#include <math.h>",
      "double r = sqrt(9.0); // r == 3.0"] },
  { id := "id-sqrtf", token := "sqrtf", category := .identifier,
    description :=
      "Float version of `sqrt`.",
    sample := some <| lines [
      "#include <math.h>",
      "float r = sqrtf(2.25f); // r == 1.5f"] },
  { id := "id-sqrtl", token := "sqrtl", category := .identifier,
    description :=
      "Long double version of `sqrt`.",
    sample := some <| lines [
      "#include <math.h>",
      "long double r = sqrtl(4.0L); // r == 2.0L"] },
  { id := "id-srand", token := "srand", category := .identifier,
    description := paragraph [
      "Seeds the pseudo-random number generator used by `rand` with",
      "`seed`."],
    sample := some <| lines [
      "#include <stdlib.h>",
      "srand(42);",
      "int r = rand(); // deterministic given seed 42"] },
  { id := "id-sscanf", token := "sscanf", category := .identifier,
    description := paragraph [
      "Reads formatted input from a string and stores parsed values.",
      "Returns the number\nof items successfully assigned."],
    sample := some <| lines [
      "#include <stdio.h>",
      "const char *s = \"42 hello\";",
      "int x; char word[16];",
      "int n = sscanf(s, \"%d %15s\", &x, word);",
      "// n == 2, x == 42, word == \"hello\""] },
  { id := "id-strcat", token := "strcat", category := .identifier,
    description := paragraph [
      "Appends the C-string `src` to the end of `dest` (including the",
      "terminator).\n`dest` must have enough space."],
    sample := some <| lines [
      "#include <string.h>",
      "char dest[16] = \"Hello\";",
      "strcat(dest, \", \");",
      "strcat(dest, \"C\");",
      "// dest == \"Hello, C\""] },
  { id := "id-strchr", token := "strchr", category := .identifier,
    description := paragraph [
      "Returns a pointer to the first occurrence of character `c` in",
      "string `s`, or\n`NULL` if not found."],
    sample := some <| lines [
      "#include <string.h>",
      "const char *s = \"abcdea\";",
      "const char *p = strchr(s, 'a'); // p == &s[0]"] },
  { id := "id-strcmp", token := "strcmp", category := .identifier,
    description := paragraph [
      "Lexicographically compares two C-strings. Returns <0, 0, >0 if",
      "`s1` is less\nthan, equal to, or greater than `s2`."],
    sample := some <| lines [
      "#include <string.h>",
      "int r = strcmp(\"apple\", \"banana\"); // r < 0"] },
  { id := "id-strcoll", token := "strcoll", category := .identifier,
    description := paragraph [
      "Compares two strings according to the current locale's collation",
      "order. Returns\n<0, 0, >0 similar to `strcmp`."],
    sample := some <| lines [
      "#include <string.h>",
      "#include <locale.h>",
      "setlocale(LC_COLLATE, \"C\");",
      "int r = strcoll(\"a\", \"b\"); // r < 0 in \"C\" locale"] },
  { id := "id-strcpy", token := "strcpy", category := .identifier,
    description := paragraph [
      "Copies the C-string `src` (including the terminating `\\0`) to",
      "`dest`. `dest`\nmust be large enough."],
    sample := some <| lines [
      "#include <string.h>",
      "char dest[16];",
      "strcpy(dest, \"hello\");",
      "// dest == \"hello\""] },
  { id := "id-strcspn", token := "strcspn", category := .identifier,
    description := paragraph [
      "Returns the length of the initial segment of `s` consisting of",
      "characters not\nin `reject`."],
    sample := some <| lines [
      "#include <string.h>",
      "size_t n = strcspn(\"hello,world\", \",!\"); // n == 5"] },
  { id := "id-strerror", token := "strerror", category := .identifier,
    description := paragraph [
      "Returns a pointer to a string describing the error code `errnum`.",
      "The returned\nstring may be static."],
    sample := some <| lines [
      "#include <string.h>",
      "const char *msg = strerror(2); // e.g., \"No such file or directory\""] },
  { id := "id-strftime", token := "strftime", category := .identifier,
    description := paragraph [
      "Formats date and time from a `struct tm` into a string according",
      "to the format\nstring. Returns the number of bytes placed in the",
      "array, not including the\nterminating null, or 0 if the result",
      "does not fit."],
    sample := some <| lines [
      "#include <time.h>",
      "#include <stdio.h>",
      "char buf[32];",
      "struct tm tm = \x7b .tm_year = 123, .tm_mon = 6, .tm_mday = 4 \x7d;",
      "size_t n = strftime(buf, sizeof(buf), \"%Y-%m-%d\", &tm);",
      "// buf == \"2023-07-04\", n == 10"] },
  { id := "id-strlen", token := "strlen", category := .identifier,
    description := paragraph [
      "Returns the length of the string `s`, not including the",
      "terminating null byte."],
    sample := some <| lines [
      "#include <string.h>",
      "size_t n = strlen(\"hello\"); // n == 5"] },
  { id := "id-strncat", token := "strncat", category := .identifier,
    description := paragraph [
      "Appends at most `n` characters from `src` to the end of `dest`,",
      "and adds a null\nterminator. `dest` must have space for the",
      "result."],
    sample := some <| lines [
      "#include <string.h>",
      "char dest[8] = \"a\";",
      "strncat(dest, \"bcdef\", 3);",
      "// dest == \"abcd\""] },
  { id := "id-strncmp", token := "strncmp", category := .identifier,
    description := paragraph [
      "Compares at most `n` characters of `s1` and `s2`. Returns <0, 0,",
      ">0 similar to\n`strcmp`."],
    sample := some <| lines [
      "#include <string.h>",
      "int r = strncmp(\"apple\", \"application\", 5); // r == 0"] },
  { id := "id-strncpy", token := "strncpy", category := .identifier,
    description := paragraph [
      "Copies at most `n` characters from `src` to `dest`. If `src` is",
      "shorter than\n`n`, the remainder of `dest` is padded with `\\0`.",
      "Does not `\\0`-terminate if\n`src` is longer than or equal to `n`."],
    sample := some <| lines [
      "#include <string.h>",
      "char dest[5];",
      "strncpy(dest, \"hello\", sizeof(dest));",
      "// dest contains \x7b'h','e','l','l','o'\x7d (no extra terminator)"] },
  { id := "id-strpbrk", token := "strpbrk", category := .identifier,
    description := paragraph [
      "Returns a pointer to the first character in `s` that matches any",
      "character in\n`accept`, or `NULL` if none are found."],
    sample := some <| lines [
      "#include <string.h>",
      "const char *s = \"abcdxyz\";",
      "const char *p = strpbrk(s, \"xy\"); // p == &s[4]"] },
  { id := "id-strrchr", token := "strrchr", category := .identifier,
    description := paragraph [
      "Returns a pointer to the last occurrence of character `c` in",
      "string `s`, or\n`NULL` if not found."],
    sample := some <| lines [
      "#include <string.h>",
      "const char *s = \"abca\";",
      "const char *p = strrchr(s, 'a'); // p == &s[3]"] },
  { id := "id-strspn", token := "strspn", category := .identifier,
    description := paragraph [
      "Returns the length of the initial segment of `s` consisting only",
      "of characters\nin `accept`."],
    sample := some <| lines [
      "#include <string.h>",
      "size_t n = strspn(\"abc123\", \"abc\"); // n == 3"] },
  { id := "id-strstr", token := "strstr", category := .identifier,
    description := paragraph [
      "Finds the first occurrence of substring `needle` in `haystack`.",
      "Returns pointer\nto the beginning of the substring, or `NULL` if",
      "not found."],
    sample := some <| lines [
      "#include <string.h>",
      "const char *h = \"Hello, World!\";",
      "const char *p = strstr(h, \"World\"); // p == h + 7"] },
  { id := "id-strtod", token := "strtod", category := .identifier,
    description := paragraph [
      "Converts the initial part of string `nptr` to `double`. Stores the",
      "address of\nthe first unconverted character in `*endptr` if",
      "non-`NULL`."],
    sample := some <| lines [
      "#include <stdlib.h>",
      "char *end;",
      "double x = strtod(\"3.14pi\", &end); // x == 3.14, *end == 'p'"] },
  { id := "id-strtof", token := "strtof", category := .identifier,
    description :=
      "Converts the initial part of string `nptr` to `float`.",
    sample := some <| lines [
      "#include <stdlib.h>",
      "char *end;",
      "float x = strtof(\"2.5e1x\", &end); // x == 25.0f, *end == 'x'"] },
  { id := "id-strtoimax", token := "strtoimax", category := .identifier,
    description := paragraph [
      "Converts string to `intmax_t` with the given base (0 autodetects).",
      "Stores end\npointer in `*endptr` if non-`NULL`."],
    sample := some <| lines [
      "#include <inttypes.h>",
      "char *end;",
      "intmax_t v = strtoimax(\"-0x2A\", &end, 0); // v == -42"] },
  { id := "id-strtok", token := "strtok", category := .identifier,
    description := paragraph [
      "Splits a string into tokens separated by any of the delimiter",
      "characters.\nModifies the input string; subsequent calls use",
      "`NULL` to continue."],
    sample := some <| lines [
      "#include <string.h>",
      "char s[] = \"a,b;c\";",
      "char *tok = strtok(s, \",;\"); // tok == \"a\"",
      "tok = strtok(NULL, \",;\");   // tok == \"b\"",
      "tok = strtok(NULL, \",;\");   // tok == \"c\""] },
  { id := "id-strtol", token := "strtol", category := .identifier,
    description := paragraph [
      "Converts string to `long int` with the given base (0 autodetects).",
      "Stores end\npointer in `*endptr` if non-`NULL`."],
    sample := some <| lines [
      "#include <stdlib.h>",
      "char *end;",
      "long v = strtol(\"1010\", &end, 2); // v == 10"] },
  { id := "id-strtold", token := "strtold", category := .identifier,
    description :=
      "Converts the initial part of string `nptr` to `long double`.",
    sample := some <| lines [
      "#include <stdlib.h>",
      "char *end;",
      "long double x = strtold(\"1.25L\", &end); // x == 1.25L, *end == 'L'"] },
  { id := "id-strtoll", token := "strtoll", category := .identifier,
    description :=
      "Converts string to `long long int` with the given base.",
    sample := some <| lines [
      "#include <stdlib.h>",
      "char *end;",
      "long long v = strtoll(\"-42\", &end, 10); // v == -42"] },
  { id := "id-strtoul", token := "strtoul", category := .identifier,
    description :=
      "Converts string to `unsigned long int` with the given base.",
    sample := some <| lines [
      "#include <stdlib.h>",
      "char *end;",
      "unsigned long v = strtoul(\"0xff\", &end, 0); // v == 255"] },
  { id := "id-strtoull", token := "strtoull", category := .identifier,
    description :=
      "Converts string to `unsigned long long int` with the given base.",
    sample := some <| lines [
      "#include <stdlib.h>",
      "char *end;",
      "unsigned long long v = strtoull(\"077\", &end, 0); // v == 63 (octal)"] },
  { id := "id-strtoumax", token := "strtoumax", category := .identifier,
    description :=
      "Converts string to `uintmax_t` with the given base.",
    sample := some <| lines [
      "#include <inttypes.h>",
      "char *end;",
      "uintmax_t v = strtoumax(\"18446744073709551615\", &end, 10); // max 64-bit"] },
  { id := "id-strxfrm", token := "strxfrm", category := .identifier,
    description := paragraph [
      "Transforms `src` into a form suitable for locale-aware comparison",
      "so that\n`strcmp(strxfrm(a), strxfrm(b))` has the same result as",
      "`strcoll(a,b)`. Returns\nthe length of the transformed string."],
    sample := some <| lines [
      "#include <string.h>",
      "#include <locale.h>",
      "setlocale(LC_COLLATE, \"C\");",
      "char out[32];",
      "size_t n = strxfrm(out, \"abc\", sizeof(out)); // n == 3, out == \"abc\""] },
  { id := "id-swprintf", token := "swprintf", category := .identifier,
    description := paragraph [
      "Writes formatted wide-character output to a wide string buffer,",
      "with a maximum\nof `n` wide characters including the terminator.",
      "Returns the number of wide\ncharacters written (excluding the",
      "terminator), or a negative value on error."],
    sample := some <| lines [
      "#include <wchar.h>",
      "wchar_t wbuf[16];",
      "int n = swprintf(wbuf, 16, L\"%ls %d\", L\"hi\", 7);",
      "// wbuf == L\"hi 7\", n == 4"] },
  { id := "id-swscanf", token := "swscanf", category := .identifier,
    description := paragraph [
      "Reads formatted input from a wide string and stores parsed",
      "values.\nReturns the number of items successfully assigned."],
    sample := some <| lines [
      "#include <wchar.h>",
      "const wchar_t *ws = L\"42 test\";",
      "int x; wchar_t word[8];",
      "int n = swscanf(ws, L\"%d %7ls\", &x, word);",
      "// n == 2, x == 42, word == L\"test\""] },
  { id := "id-system", token := "system", category := .identifier,
    description := paragraph [
      "Passes the command string to the host environment to be executed",
      "by the command\nprocessor. Returns an implementation-defined",
      "status."],
    sample := some <| lines [
      "#include <stdlib.h>",
      "int r = system(\"echo hi > sys_out.txt\"); // r >= 0 if executed"] },
  { id := "id-tan", token := "tan", category := .identifier,
    description :=
      "Returns the tangent of `x` (in radians) as a `double`.",
    sample := some <| lines [
      "#include <math.h>",
      "double r = tan(M_PI / 4); // r ~= 1.0"] },
  { id := "id-tanf", token := "tanf", category := .identifier,
    description :=
      "Float version of `tan`.",
    sample := some <| lines [
      "#include <math.h>",
      "float r = tanf((float)M_PI / 4.0f); // r ~= 1.0f"] },
  { id := "id-tanh", token := "tanh", category := .identifier,
    description :=
      "Returns the hyperbolic tangent of `x` as a `double`.",
    sample := some <| lines [
      "#include <math.h>",
      "double r = tanh(1.0); // r ~= 0.761594"] },
  { id := "id-tanhf", token := "tanhf", category := .identifier,
    description :=
      "Float version of `tanh`.",
    sample := some <| lines [
      "#include <math.h>",
      "float r = tanhf(1.0f); // r ~= 0.761594f"] },
  { id := "id-tanhl", token := "tanhl", category := .identifier,
    description :=
      "Long double version of `tanh`.",
    sample := some <| lines [
      "#include <math.h>",
      "long double r = tanhl(1.0L); // r ~= 0.761594L"] },
  { id := "id-tanl", token := "tanl", category := .identifier,
    description :=
      "Long double version of `tan` (tangent of `x` in radians).",
    sample := some <| lines [
      "#include <math.h>",
      "long double r = tanl(M_PI_4); // r ~= 1.0L"] },
  { id := "id-tgamma", token := "tgamma", category := .identifier,
    description := paragraph [
      "Returns the gamma function of `x` as `double` (Γ(x)). For positive",
      "integers,\nΓ(n) == (n-1)!."],
    sample := some <| lines [
      "#include <math.h>",
      "double r = tgamma(6.0); // r == 120.0"] },
  { id := "id-tgammaf", token := "tgammaf", category := .identifier,
    description :=
      "Float version of `tgamma`.",
    sample := some <| lines [
      "#include <math.h>",
      "float r = tgammaf(5.0f); // r == 24.0f"] },
  { id := "id-tgammal", token := "tgammal", category := .identifier,
    description :=
      "Long double version of `tgamma`.",
    sample := some <| lines [
      "#include <math.h>",
      "long double r = tgammal(3.0L); // r == 2.0L"] },
  { id := "id-time", token := "time", category := .identifier,
    description := paragraph [
      "Returns the current calendar time as a `time_t`. If `t` is not",
      "`NULL`, stores\nthe value in `*t`."],
    sample := some <| lines [
      "#include <time.h>",
      "time_t now = time(NULL); // now != (time_t)-1 on success"] },
  { id := "id-time_t", token := "time_t", category := .identifier,
    description := paragraph [
      "Arithmetic type capable of representing calendar time values",
      "returned by `time`."],
    sample := some <| lines [
      "#include <time.h>",
      "time_t t = 0; // represents the Unix epoch (implementation-defined)"] },
  { id := "id-tmpfile", token := "tmpfile", category := .identifier,
    description := paragraph [
      "Creates a temporary binary file opened for update (\"wb+\") that",
      "is automatically\ndeleted when closed or on program termination."],
    sample := some <| lines [
      "#include <stdio.h>",
      "FILE *fp = tmpfile();",
      "// fp != NULL on success; file is temporary"] },
  { id := "id-tmpnam", token := "tmpnam", category := .identifier,
    description := paragraph [
      "Generates a string that is a valid pathname for a temporary file.",
      "Not secure;\nprefer `tmpfile` or `mkstemp` (POSIX)."],
    sample := some <| lines [
      "#include <stdio.h>",
      "char name[L_tmpnam];",
      "tmpnam(name); // name now holds a temporary filename"] },
  { id := "id-tolower", token := "tolower", category := .identifier,
    description := paragraph [
      "Converts an `unsigned char` value to lowercase if it is an",
      "uppercase letter;\notherwise returns it unchanged."],
    sample := some <| lines [
      "#include <ctype.h>",
      "int r = tolower('G'); // r == 'g'"] },
  { id := "id-toupper", token := "toupper", category := .identifier,
    description := paragraph [
      "Converts an `unsigned char` value to uppercase if it is a",
      "lowercase letter;\notherwise returns it unchanged."],
    sample := some <| lines [
      "#include <ctype.h>",
      "int r = toupper('b'); // r == 'B'"] },
  { id := "id-towctrans", token := "towctrans", category := .identifier,
    description := paragraph [
      "Applies a wide-character mapping to `wint_t wc` using a",
      "`wctrans_t` descriptor\nobtained by `wctrans(\"lower\")`,",
      "`wctrans(\"upper\")`, etc."],
    sample := some <| lines [
      "#include <wctype.h>",
      "wctrans_t tolower_map = wctrans(\"tolower\");",
      "wint_t r = towctrans(L'A', tolower_map); // r == L'a'"] },
  { id := "id-towlower", token := "towlower", category := .identifier,
    description := paragraph [
      "Converts a wide character to lowercase according to the current",
      "locale."],
    sample := some <| lines [
      "#include <wctype.h>",
      "wint_t r = towlower(L'Ö'); // r is lowercase variant in locale if defined"] },
  { id := "id-towupper", token := "towupper", category := .identifier,
    description := paragraph [
      "Converts a wide character to uppercase according to the current",
      "locale."],
    sample := some <| lines [
      "#include <wctype.h>",
      "wint_t r = towupper(L'ß'); // may map to L'ẞ' in locales that support it"] },
  { id := "id-trunc", token := "trunc", category := .identifier,
    description := paragraph [
      "Truncates `x` to the integer value toward zero, returned in",
      "floating type."],
    sample := some <| lines [
      "#include <math.h>",
      "double r = trunc(-3.9); // r == -3.0"] },
  { id := "id-truncf", token := "truncf", category := .identifier,
    description :=
      "Float version of `trunc`.",
    sample := some <| lines [
      "#include <math.h>",
      "float r = truncf(2.8f); // r == 2.0f"] },
  { id := "id-truncl", token := "truncl", category := .identifier,
    description :=
      "Long double version of `trunc`.",
    sample := some <| lines [
      "#include <math.h>",
      "long double r = truncl(-1.2L); // r == -1.0L"] },
  { id := "id-ungetc", token := "ungetc", category := .identifier,
    description := paragraph [
      "Pushes character `c` back onto the input stream so the next read",
      "returns it.\nOnly one character of pushback is guaranteed."],
    sample := some <| lines [
      "#include <stdio.h>",
      "FILE *fp = fopen(\"in.txt\", \"r\");",
      "int ch = fgetc(fp);",
      "ungetc(ch, fp);",
      "int again = fgetc(fp); // again == ch"] },
  { id := "id-ungetwc", token := "ungetwc", category := .identifier,
    description := paragraph [
      "Pushes wide character `wc` back onto the input wide stream so the",
      "next wide\ncharacter read returns it."],
    sample := some <| lines [
      "#include <wchar.h>",
      "FILE *fp = fopen(\"in.txt\", \"r\");",
      "wint_t wc = fgetwc(fp);",
      "ungetwc(wc, fp);",
      "wint_t again = fgetwc(fp); // again == wc"] },
  { id := "id-va_arg", token := "va_arg", category := .identifier,
    description := paragraph [
      "Retrieves the next argument from a `va_list` with the specified",
      "type."],
    sample := some <| lines [
      "#include <stdarg.h>",
      "int sum(int count, ...) \x7b",
      "    va_list ap; va_start(ap, count);",
      "    int s = 0; for (int i = 0; i < count; i++) s += va_arg(ap, int);",
      "    va_end(ap); return s;",
      "\x7d"] },
  { id := "id-va_copy", token := "va_copy", category := .identifier,
    description := paragraph [
      "Copies a `va_list` so it can be iterated independently of the",
      "original."],
    sample := some <| lines [
      "#include <stdarg.h>",
      "void f(int n, ...) \x7b",
      "    va_list ap, ap2; va_start(ap, n); va_copy(ap2, ap);",
      "    // use ap and ap2",
      "    va_end(ap2); va_end(ap);",
      "\x7d"] },
  { id := "id-va_end", token := "va_end", category := .identifier,
    description := paragraph [
      "Ends traversal of a `va_list` started by `va_start`. Must be",
      "called before\nfunction returns."],
    sample := some <| lines [
      "#include <stdarg.h>",
      "void g(int n, ...) \x7b",
      "    va_list ap; va_start(ap, n);",
      "    // ...",
      "    va_end(ap);",
      "\x7d"] },
  { id := "id-va_list", token := "va_list", category := .identifier,
    description := paragraph [
      "Type used to hold information needed by the macros `va_start`,",
      "`va_arg`, and\n`va_end` for variable argument lists."],
    sample := some <| lines [
      "#include <stdarg.h>",
      "va_list ap; // declared for use with varargs"] },
  { id := "id-va_start", token := "va_start", category := .identifier,
    description := paragraph [
      "Initializes a `va_list` for argument retrieval. Must be paired",
      "with `va_end`."],
    sample := some <| lines [
      "#include <stdarg.h>",
      "void f(int n, ...) \x7b",
      "    va_list ap; va_start(ap, n);",
      "    // retrieve args via va_arg",
      "    va_end(ap);",
      "\x7d"] },
  { id := "id-vfprintf", token := "vfprintf", category := .identifier,
    description := paragraph [
      "Writes formatted output to a stream using a `va_list` of",
      "arguments.\nReturns the number of characters written, or a",
      "negative value on error."],
    sample := some <| lines [
      "#include <stdio.h>",
      "#include <stdarg.h>",
      "",
      "int logf(FILE *fp, const char *fmt, ...) \x7b",
      "    va_list ap; va_start(ap, fmt);",
      "    int n = vfprintf(fp, fmt, ap);",
      "    va_end(ap); return n;",
      "\x7d",
      "// logf(stdout, \"%s %d\\n\", \"ok\", 7); // prints: ok 7"] },
  { id := "id-vfscanf", token := "vfscanf", category := .identifier,
    description := paragraph [
      "Reads formatted input from a stream using a `va_list` of",
      "arguments. Returns the\nnumber of input items successfully matched",
      "and assigned."],
    sample := some <| lines [
      "#include <stdio.h>",
      "#include <stdarg.h>",
      "",
      "int readf(FILE *fp, const char *fmt, ...) \x7b",
      "    va_list ap; va_start(ap, fmt);",
      "    int n = vfscanf(fp, fmt, ap);",
      "    va_end(ap); return n;",
      "\x7d"] },
  { id := "id-vprintf", token := "vprintf", category := .identifier,
    description :=
      "Writes formatted output to `stdout` using a `va_list` of arguments.",
    sample := some <| lines [
      "#include <stdio.h>",
      "#include <stdarg.h>",
      "",
      "void vlog(const char *fmt, ...) \x7b",
      "    va_list ap; va_start(ap, fmt);",
      "    vprintf(fmt, ap);",
      "    va_end(ap);",
      "\x7d",
      "// vlog(\"%d %s\\n\", 1, \"done\"); // prints: 1 done"] },
  { id := "id-vscanf", token := "vscanf", category := .identifier,
    description := paragraph [
      "Reads formatted input from `stdin` using a `va_list` of arguments.",
      "Returns the\nnumber of items successfully assigned."],
    sample := some <| lines [
      "#include <stdio.h>",
      "#include <stdarg.h>",
      "",
      "int vscan_wrapper(const char *fmt, ...) \x7b",
      "    va_list ap; va_start(ap, fmt);",
      "    int n = vscanf(fmt, ap);",
      "    va_end(ap); return n;",
      "\x7d"] },
  { id := "id-vsnprintf", token := "vsnprintf", category := .identifier,
    description := paragraph [
      "Writes formatted output to a buffer using a `va_list`, up to",
      "`size` bytes\nincluding the null terminator. Returns the number of",
      "characters that would have\nbeen written excluding the terminator."],
    sample := some <| lines [
      "#include <stdio.h>",
      "#include <stdarg.h>",
      "",
      "int vfmt(char *buf, size_t size, const char *fmt, ...) \x7b",
      "    va_list ap; va_start(ap, fmt);",
      "    int n = vsnprintf(buf, size, fmt, ap);",
      "    va_end(ap); return n;",
      "\x7d"] },
  { id := "id-vsprintf", token := "vsprintf", category := .identifier,
    description := paragraph [
      "Writes formatted output to a string using a `va_list`. Returns the",
      "number of\ncharacters written, excluding the null terminator."],
    sample := some <| lines [
      "#include <stdio.h>",
      "#include <stdarg.h>",
      "",
      "int vfmt2(char *buf, const char *fmt, ...) \x7b",
      "    va_list ap; va_start(ap, fmt);",
      "    int n = vsprintf(buf, fmt, ap);",
      "    va_end(ap); return n;",
      "\x7d"] },
  { id := "id-vsscanf", token := "vsscanf", category := .identifier,
    description := paragraph [
      "Reads formatted data from a string using a `va_list` of",
      "arguments.\nReturns the number of items successfully assigned."],
    sample := some <| lines [
      "#include <stdio.h>",
      "#include <stdarg.h>",
      "",
      "int vscan(const char *s, const char *fmt, ...) \x7b",
      "    va_list ap; va_start(ap, fmt);",
      "    int n = vsscanf(s, fmt, ap);",
      "    va_end(ap); return n;",
      "\x7d"] },
  { id := "id-vwprintf", token := "vwprintf", category := .identifier,
    description := paragraph [
      "Writes formatted wide-character output to `stdout` using a",
      "`va_list`."],
    sample := some <| lines [
      "#include <wchar.h>",
      "#include <stdarg.h>",
      "",
      "void wlog(const wchar_t *fmt, ...) \x7b",
      "    va_list ap; va_start(ap, fmt);",
      "    vwprintf(fmt, ap);",
      "    va_end(ap);",
      "\x7d",
      "// wlog(L\"%ls %d\\n\", L\"ok\", 3); // prints: ok 3"] },
  { id := "id-vwscanf", token := "vwscanf", category := .identifier,
    description := paragraph [
      "Reads formatted wide-character input from `stdin` using a",
      "`va_list` of\narguments. Returns the number of items successfully",
      "assigned."],
    sample := some <| lines [
      "#include <wchar.h>",
      "#include <stdarg.h>",
      "",
      "int vwscan(const wchar_t *fmt, ...) \x7b",
      "    va_list ap; va_start(ap, fmt);",
      "    int n = vwscanf(fmt, ap);",
      "    va_end(ap); return n;",
      "\x7d"] },
  { id := "id-wcrtomb", token := "wcrtomb", category := .identifier,
    description := paragraph [
      "Converts a wide character to its multibyte sequence, storing it in",
      "`s` and\nupdating `mbstate_t *ps`. Returns the number of bytes",
      "written, or `(size_t)-1`\non encoding error."],
    sample := some <| lines [
      "#include <wchar.h>",
      "mbstate_t st = \x7b0\x7d;",
      "char mb[MB_CUR_MAX];",
      "size_t n = wcrtomb(mb, L'A', &st); // n == 1, mb[0] == 'A'"] },
  { id := "id-wcscat", token := "wcscat", category := .identifier,
    description := paragraph [
      "Appends the wide string `src` to the end of `dest` (including",
      "terminator).\n`dest` must have enough space."],
    sample := some <| lines [
      "#include <wchar.h>",
      "wchar_t dest[16] = L\"Hello\";",
      "wcscat(dest, L\", \");",
      "wcscat(dest, L\"C\");",
      "// dest == L\"Hello, C\""] },
  { id := "id-wcschr", token := "wcschr", category := .identifier,
    description := paragraph [
      "Returns a pointer to the first occurrence of wide character `wc`",
      "in wide string\n`ws`, or `NULL` if not found."],
    sample := some <| lines [
      "#include <wchar.h>",
      "const wchar_t *ws = L\"abcdea\";",
      "const wchar_t *p = wcschr(ws, L'a'); // p == &ws[0]"] },
  { id := "id-wcscmp", token := "wcscmp", category := .identifier,
    description := paragraph [
      "Lexicographically compares two wide strings. Returns <0, 0, >0 if",
      "`ws1` is less\nthan, equal to, or greater than `ws2`."],
    sample := some <| lines [
      "#include <wchar.h>",
      "int r = wcscmp(L\"apple\", L\"banana\"); // r < 0"] },
  { id := "id-wcscoll", token := "wcscoll", category := .identifier,
    description := paragraph [
      "Compares two wide strings according to the current locale's",
      "collation order.\nReturns <0, 0, >0 similar to `wcscmp`."],
    sample := some <| lines [
      "#include <wchar.h>",
      "#include <locale.h>",
      "setlocale(LC_COLLATE, \"C\");",
      "int r = wcscoll(L\"a\", L\"b\"); // r < 0 in \"C\" locale"] },
  { id := "id-wcscpy", token := "wcscpy", category := .identifier,
    description := paragraph [
      "Copies the wide string `src` (including the terminating L'\\0') to",
      "`dest`."],
    sample := some <| lines [
      "#include <wchar.h>",
      "wchar_t dest[8];",
      "wcscpy(dest, L\"hi\");",
      "// dest == L\"hi\""] },
  { id := "id-wcscspn", token := "wcscspn", category := .identifier,
    description := paragraph [
      "Returns the length of the initial segment of wide string `ws`",
      "consisting of\ncharacters not in `reject`."],
    sample := some <| lines [
      "#include <wchar.h>",
      "size_t n = wcscspn(L\"hello,world\", L\",!\"); // n == 5"] },
  { id := "id-wcsftime", token := "wcsftime", category := .identifier,
    description := paragraph [
      "Formats date and time from a `struct tm` into a wide string",
      "according to the\nformat string. Returns the number of wide",
      "characters written, or 0 if it does\nnot fit."],
    sample := some <| lines [
      "#include <wchar.h>",
      "#include <time.h>",
      "wchar_t buf[32];",
      "struct tm tm = \x7b .tm_year = 123, .tm_mon = 6, .tm_mday = 4 \x7d;",
      "size_t n = wcsftime(buf, 32, L\"%Y-%m-%d\", &tm);",
      "// buf == L\"2023-07-04\", n == 10"] },
  { id := "id-wcslen", token := "wcslen", category := .identifier,
    description := paragraph [
      "Returns the length of wide string `ws`, excluding the terminating",
      "null."],
    sample := some <| lines [
      "#include <wchar.h>",
      "size_t n = wcslen(L\"hello\"); // n == 5"] },
  { id := "id-wcsncat", token := "wcsncat", category := .identifier,
    description := paragraph [
      "Appends at most `n` wide characters from `src` to `dest` and adds",
      "a terminating\nnull. `dest` must have enough space."],
    sample := some <| lines [
      "#include <wchar.h>",
      "wchar_t dest[8] = L\"a\";",
      "wcsncat(dest, L\"bcdef\", 3);",
      "// dest == L\"abcd\""] },
  { id := "id-wcsncmp", token := "wcsncmp", category := .identifier,
    description := paragraph [
      "Compares at most `n` wide characters of `ws1` and `ws2`. Returns",
      "<0, 0, >0\nsimilar to `wcscmp`."],
    sample := some <| lines [
      "#include <wchar.h>",
      "int r = wcsncmp(L\"apple\", L\"application\", 5); // r == 0"] },
  { id := "id-wcsncpy", token := "wcsncpy", category := .identifier,
    description := paragraph [
      "Copies at most `n` wide characters from `src` to `dest`. If `src`",
      "is shorter\nthan `n`, the remainder is padded with L'\\0'. Does",
      "not L'\\0'-terminate if `src`\nis longer than or equal to `n`."],
    sample := some <| lines [
      "#include <wchar.h>",
      "wchar_t dest[5];",
      "wcsncpy(dest, L\"hello\", 5);",
      "// dest contains L\"hello\" (no extra terminator)"] },
  { id := "id-wcspbrk", token := "wcspbrk", category := .identifier,
    description := paragraph [
      "Returns a pointer to the first wide character in `ws` that matches",
      "any wide\ncharacter in `accept`, or `NULL` if none are found."],
    sample := some <| lines [
      "#include <wchar.h>",
      "const wchar_t *ws = L\"abcdxyz\";",
      "const wchar_t *p = wcspbrk(ws, L\"xy\"); // p == &ws[4]"] },
  { id := "id-wcsrchr", token := "wcsrchr", category := .identifier,
    description := paragraph [
      "Returns a pointer to the last occurrence of wide character `wc` in",
      "wide string\n`ws`, or `NULL` if not found."],
    sample := some <| lines [
      "#include <wchar.h>",
      "const wchar_t *ws = L\"abca\";",
      "const wchar_t *p = wcsrchr(ws, L'a'); // p == &ws[3]"] },
  { id := "id-wcsrtombs", token := "wcsrtombs", category := .identifier,
    description := paragraph [
      "Converts a wide-character string to a multibyte string, restarting",
      "from the\nstate pointed to by `ps`. Updates the source pointer.",
      "Returns the number of\nbytes written (excluding terminator), or",
      "`(size_t)-1` on encoding error."],
    sample := some <| lines [
      "#include <wchar.h>",
      "mbstate_t st = \x7b0\x7d;",
      "const wchar_t *src = L\"Hi\";",
      "char dst[8];",
      "size_t n = wcsrtombs(dst, &src, sizeof(dst), &st); // n == 2"] },
  { id := "id-wcsspn", token := "wcsspn", category := .identifier,
    description := paragraph [
      "Returns the length of the initial segment of wide string `ws`",
      "consisting only\nof wide characters in `accept`."],
    sample := some <| lines [
      "#include <wchar.h>",
      "size_t n = wcsspn(L\"abc123\", L\"abc\"); // n == 3"] },
  { id := "id-wcsstr", token := "wcsstr", category := .identifier,
    description := paragraph [
      "Finds the first occurrence of wide substring `needle` in wide",
      "string `haystack`.\nReturns pointer to the beginning of the",
      "substring, or `NULL` if not found."],
    sample := some <| lines [
      "#include <wchar.h>",
      "const wchar_t *h = L\"Hello, World!\";",
      "const wchar_t *p = wcsstr(h, L\"World\"); // p == h + 7"] },
  { id := "id-wcstod", token := "wcstod", category := .identifier,
    description := paragraph [
      "Converts the initial part of wide string `nptr` to `double`.",
      "Stores the address\nof the first unconverted wide character in",
      "`*endptr` if non-`NULL`."],
    sample := some <| lines [
      "#include <wchar.h>",
      "double x = wcstod(L\"3.14π\", NULL); // x == 3.14"] },
  { id := "id-wcstof", token := "wcstof", category := .identifier,
    description :=
      "Converts the initial part of wide string `nptr` to `float`.",
    sample := some <| lines [
      "#include <wchar.h>",
      "float x = wcstof(L\"2.5e1x\", NULL); // x == 25.0f"] },
  { id := "id-wcstoimax", token := "wcstoimax", category := .identifier,
    description := paragraph [
      "Converts wide string to `intmax_t` with the given base (0",
      "autodetects). Stores\nend pointer in `*endptr` if non-`NULL`."],
    sample := some <| lines [
      "#include <wchar.h>",
      "#include <inttypes.h>",
      "intmax_t v = wcstoimax(L\"-0x2A\", NULL, 0); // v == -42"] },
  { id := "id-wcstok", token := "wcstok", category := .identifier,
    description := paragraph [
      "Splits a wide string into tokens separated by any of the delimiter",
      "wide\ncharacters. Uses a state pointer for re-entrant behavior."],
    sample := some <| lines [
      "#include <wchar.h>",
      "wchar_t s[] = L\"a,b;c\";",
      "wchar_t *ctx;",
      "wchar_t *tok = wcstok(s, L\",;\", &ctx); // tok == L\"a\"",
      "tok = wcstok(NULL, L\",;\", &ctx);       // tok == L\"b\"",
      "tok = wcstok(NULL, L\",;\", &ctx);       // tok == L\"c\""] },
  { id := "id-wcstol", token := "wcstol", category := .identifier,
    description := paragraph [
      "Converts wide string to `long int` with the given base (0",
      "autodetects)."],
    sample := some <| lines [
      "#include <wchar.h>",
      "long v = wcstol(L\"1010\", NULL, 2); // v == 10"] },
  { id := "id-wcstold", token := "wcstold", category := .identifier,
    description :=
      "Converts the initial part of wide string `nptr` to `long double`.",
    sample := some <| lines [
      "#include <wchar.h>",
      "long double x = wcstold(L\"1.25L\", NULL); // x == 1.25L"] },
  { id := "id-wcstoll", token := "wcstoll", category := .identifier,
    description :=
      "Converts wide string to `long long int` with the given base.",
    sample := some <| lines [
      "#include <wchar.h>",
      "long long v = wcstoll(L\"-42\", NULL, 10); // v == -42"] },
  { id := "id-wcstombs", token := "wcstombs", category := .identifier,
    description := paragraph [
      "Converts a wide-character string to a multibyte string using the",
      "current\nlocale. Returns number of bytes written (excluding",
      "terminator), or `(size_t)-1`\non encoding error."],
    sample := some <| lines [
      "#include <stdlib.h>",
      "#include <wchar.h>",
      "char mb[16];",
      "size_t n = wcstombs(mb, L\"Hi\", sizeof(mb)); // n == 2"] },
  { id := "id-wcstoul", token := "wcstoul", category := .identifier,
    description :=
      "Converts wide string to `unsigned long int` with the given base.",
    sample := some <| lines [
      "#include <wchar.h>",
      "unsigned long v = wcstoul(L\"0xff\", NULL, 0); // v == 255"] },
  { id := "id-wcstoull", token := "wcstoull", category := .identifier,
    description := paragraph [
      "Converts wide string to `unsigned long long int` with the given",
      "base."],
    sample := some <| lines [
      "#include <wchar.h>",
      "unsigned long long v = wcstoull(L\"077\", NULL, 0); // v == 63 (octal)"] },
  { id := "id-wcstoumax", token := "wcstoumax", category := .identifier,
    description :=
      "Converts wide string to `uintmax_t` with the given base.",
    sample := some <| lines [
      "#include <wchar.h>",
      "#include <inttypes.h>",
      "uintmax_t v = wcstoumax(L\"18446744073709551615\", NULL, 10); // max 64-bit"] },
  { id := "id-wcsxfrm", token := "wcsxfrm", category := .identifier,
    description := paragraph [
      "Transforms wide string `src` into a form suitable for locale-aware",
      "comparison\ninto `dest`. Returns length of transformed string."],
    sample := some <| lines [
      "#include <wchar.h>",
      "#include <locale.h>",
      "setlocale(LC_COLLATE, \"C\");",
      "wchar_t out[16];",
      "size_t n = wcsxfrm(out, L\"abc\", 16); // n == 3, out == L\"abc\""] },
  { id := "id-wctob", token := "wctob", category := .identifier,
    description := paragraph [
      "Converts wide character `wc` to a single byte if representable in",
      "the current\nlocale; returns `EOF` otherwise."],
    sample := some <| lines [
      "#include <wchar.h>",
      "int c = wctob(L'A'); // c == 'A'"] },
  { id := "id-wctomb", token := "wctomb", category := .identifier,
    description := paragraph [
      "Converts wide character `wc` to its multibyte sequence using the",
      "current\nconversion state. Returns number of bytes written, or -1",
      "on encoding error."],
    sample := some <| lines [
      "#include <stdlib.h>",
      "char mb[MB_CUR_MAX];",
      "int n = wctomb(mb, L'A'); // n == 1, mb[0] == 'A'"] },
  { id := "id-wctrans", token := "wctrans", category := .identifier,
    description := paragraph [
      "Returns a mapping descriptor for wide-character transformations,",
      "e.g.,\n`wctrans(\"tolower\")` or `wctrans(\"toupper\")`."],
    sample := some <| lines [
      "#include <wctype.h>",
      "wctrans_t map = wctrans(\"toupper\");",
      "wint_t r = towctrans(L'a', map); // r == L'A'"] },
  { id := "id-wctype", token := "wctype", category := .identifier,
    description := paragraph [
      "Returns a character class descriptor for `iswctype`, e.g.,",
      "`wctype(\"digit\")`."],
    sample := some <| lines [
      "#include <wctype.h>",
      "wctype_t cls = wctype(\"digit\");",
      "int r1 = iswctype(L'5', cls); // r1 != 0",
      "int r2 = iswctype(L'A', cls); // r2 == 0"] },
  { id := "id-wcwidth", token := "wcwidth", category := .identifier,
    description := paragraph [
      "Returns the number of column positions needed for wide character",
      "`wc`, or -1 if\n`wc` is not printable (POSIX)."],
    sample := some <| lines [
      "#include <wchar.h>",
      "int w = wcwidth(L'A'); // w == 1"] },
  { id := "id-wmemchr", token := "wmemchr", category := .identifier,
    description := paragraph [
      "Searches the first `n` wide characters of the array `ws` for `wc`.",
      "Returns\npointer to the match or `NULL`."],
    sample := some <| lines [
      "#include <wchar.h>",
      "const wchar_t *s = L\"hello\";",
      "const wchar_t *p = wmemchr(s, L'l', 5); // p == &s[2]"] },
  { id := "id-wmemcmp", token := "wmemcmp", category := .identifier,
    description := paragraph [
      "Compares the first `n` wide characters of two arrays. Returns <0,",
      "0, >0 if the\nfirst is less than, equal to, or greater than the",
      "second."],
    sample := some <| lines [
      "#include <wchar.h>",
      "int r = wmemcmp(L\"abc\", L\"abd\", 3); // r < 0"] },
  { id := "id-wmemcpy", token := "wmemcpy", category := .identifier,
    description := paragraph [
      "Copies `n` wide characters from source to destination. Regions",
      "must not overlap."],
    sample := some <| lines [
      "#include <wchar.h>",
      "wchar_t dst[4];",
      "wmemcpy(dst, L\"abc\", 4); // copies L'a',L'b',L'c',L'\\0'"] },
  { id := "id-wmemmove", token := "wmemmove", category := .identifier,
    description := paragraph [
      "Copies `n` wide characters between arrays, safe for overlapping",
      "regions."],
    sample := some <| lines [
      "#include <wchar.h>",
      "wchar_t s[] = L\"abcdef\";",
      "wmemmove(s + 2, s, 4); // s becomes L\"ababcd\""] },
  { id := "id-wmemset", token := "wmemset", category := .identifier,
    description :=
      "Fills the first `n` wide characters of the array with `wc`.",
    sample := some <| lines [
      "#include <wchar.h>",
      "wchar_t buf[5];",
      "wmemset(buf, L'*', 4); buf[4] = L'\\0';",
      "// buf == L\"****\""] },
  { id := "id-wprintf", token := "wprintf", category := .identifier,
    description :=
      "Writes formatted wide-character output to `stdout`.",
    sample := some <| lines [
      "#include <wchar.h>",
      "int n = wprintf(L\"%ls %d\\n\", L\"hi\", 7); // prints: hi 7\\n; n == 5"] },
  { id := "id-wscanf", token := "wscanf", category := .identifier,
    description := paragraph [
      "Reads formatted wide-character input from `stdin`. Returns the",
      "number of input\nitems successfully assigned."],
    sample := some <| lines [
      "#include <wchar.h>",
      "int x; wchar_t w[8];",
      "// If user types: 42 test<Enter>",
      "int n = wscanf(L\"%d %7ls\", &x, w);",
      "// n == 2, x == 42, w == L\"test\""] }]

end CLexicon.Dictionary
