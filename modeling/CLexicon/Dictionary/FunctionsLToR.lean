import CLexicon.Dictionary.Layout

/-!
# Library functions, L to R

The functions and types of the standard library whose names start with `l` to
`r`.
-/

namespace CLexicon.Dictionary

/-- The functions and types of the standard library whose names start with `l` to
`r`. -/
def functionsLToR : List RawItem := [
  { id := "id-labs", token := "labs", category := .identifier,
    description :=
      "Returns the absolute value of a `long int`.",
    sample := some <| lines [
      "#include <stdlib.h>",
      "long int r = labs(-123L); // r == 123"] },
  { id := "id-ldexp", token := "ldexp", category := .identifier,
    description :=
      "Returns `x * 2^exp` as a `double`.",
    sample := some <| lines [
      "#include <math.h>",
      "double r = ldexp(3.0, 4); // r == 48.0"] },
  { id := "id-ldexpf", token := "ldexpf", category := .identifier,
    description :=
      "Returns `x * 2^exp` as a `float`.",
    sample := some <| lines [
      "#include <math.h>",
      "float r = ldexpf(3.0f, 4); // r == 48.0f"] },
  { id := "id-ldexpl", token := "ldexpl", category := .identifier,
    description :=
      "Returns `x * 2^exp` as a `long double`.",
    sample := some <| lines [
      "#include <math.h>",
      "long double r = ldexpl(3.0L, 4); // r == 48.0L"] },
  { id := "id-ldiv", token := "ldiv", category := .identifier,
    description := paragraph [
      "Divides two `long int` values and returns quotient and remainder",
      "as `ldiv_t`."],
    sample := some <| lines [
      "#include <stdlib.h>",
      "ldiv_t q = ldiv(10L, 3L); // q.quot == 3, q.rem == 1"] },
  { id := "id-ldiv_t", token := "ldiv_t", category := .identifier,
    description := paragraph [
      "Structure type returned by `ldiv`, with fields `long int quot;",
      "long int rem;`."],
    sample := some <| lines [
      "#include <stdlib.h>",
      "ldiv_t r = ldiv(42L, 5L); // r.quot == 8, r.rem == 2"] },
  { id := "id-lgamma", token := "lgamma", category := .identifier,
    description := paragraph [
      "Returns the natural log of the absolute value of the gamma",
      "function of `x`\nas a `double`. May set the external `int signgam`",
      "to the sign of `gamma(x)`."],
    sample := some <| lines [
      "#include <math.h>",
      "double r = lgamma(5.0); // r ~= log(24) ~= 3.17805383"] },
  { id := "id-lgammaf", token := "lgammaf", category := .identifier,
    description :=
      "Float version of `lgamma`.",
    sample := some <| lines [
      "#include <math.h>",
      "float r = lgammaf(5.0f); // r ~= 3.17805383f"] },
  { id := "id-lgammal", token := "lgammal", category := .identifier,
    description :=
      "Long double version of `lgamma`.",
    sample := some <| lines [
      "#include <math.h>",
      "long double r = lgammal(5.0L); // r ~= 3.17805383L"] },
  { id := "id-llabs", token := "llabs", category := .identifier,
    description :=
      "Returns the absolute value of a `long long int`.",
    sample := some <| lines [
      "#include <stdlib.h>",
      "long long r = llabs(-42LL); // r == 42"] },
  { id := "id-lldiv", token := "lldiv", category := .identifier,
    description := paragraph [
      "Divides two `long long int` values and returns quotient and",
      "remainder as\n`lldiv_t`."],
    sample := some <| lines [
      "#include <stdlib.h>",
      "lldiv_t q = lldiv(100LL, 9LL); // q.quot == 11, q.rem == 1"] },
  { id := "id-lldiv_t", token := "lldiv_t", category := .identifier,
    description := paragraph [
      "Structure type returned by `lldiv`, with fields `long long int",
      "quot; long long int rem;`."],
    sample := some <| lines [
      "#include <stdlib.h>",
      "lldiv_t r = lldiv(7LL, 3LL); // r.quot == 2, r.rem == 1"] },
  { id := "id-localeconv", token := "localeconv", category := .identifier,
    description := paragraph [
      "Returns a pointer to a `struct lconv` with numeric and monetary",
      "formatting for\nthe current locale."],
    sample := some <| lines [
      "#include <locale.h>",
      "setlocale(LC_ALL, \"C\");",
      "struct lconv *lc = localeconv();",
      "// lc->decimal_point == \".\""] },
  { id := "id-localtime", token := "localtime", category := .identifier,
    description :=
      "Converts a `time_t` value to a broken-down local time `struct tm`.",
    sample := some <| lines [
      "#include <time.h>",
      "time_t t = time(NULL);",
      "struct tm *tm = localtime(&t); // tm != NULL"] },
  { id := "id-log", token := "log", category := .identifier,
    description :=
      "Returns the natural logarithm (base e) of `x` as a `double`.",
    sample := some <| lines [
      "#include <math.h>",
      "double r = log(2.718281828); // r ~= 1.0"] },
  { id := "id-log10", token := "log10", category := .identifier,
    description :=
      "Returns the base-10 logarithm of `x` as a `double`.",
    sample := some <| lines [
      "#include <math.h>",
      "double r = log10(1000.0); // r == 3.0"] },
  { id := "id-log10f", token := "log10f", category := .identifier,
    description :=
      "Float version of `log10`.",
    sample := some <| lines [
      "#include <math.h>",
      "float r = log10f(1000.0f); // r == 3.0f"] },
  { id := "id-log10l", token := "log10l", category := .identifier,
    description :=
      "Long double version of `log10`.",
    sample := some <| lines [
      "#include <math.h>",
      "long double r = log10l(1000.0L); // r == 3.0L"] },
  { id := "id-log1p", token := "log1p", category := .identifier,
    description := paragraph [
      "Returns the natural logarithm of 1 plus `x` (i.e., `log(1+x)`)",
      "with improved\naccuracy for small `x`. Domain: `x > -1`."],
    sample := some <| lines [
      "#include <math.h>",
      "double r1 = log1p(0.0);          // r1 == 0.0",
      "double r2 = log1p(exp(1.0) - 1); // r2 ~= 1.0"] },
  { id := "id-log1pf", token := "log1pf", category := .identifier,
    description :=
      "Float version of `log1p`.",
    sample := some <| lines [
      "#include <math.h>",
      "float r = log1pf(expf(1.0f) - 1.0f); // r ~= 1.0f"] },
  { id := "id-log1pl", token := "log1pl", category := .identifier,
    description :=
      "Long double version of `log1p`.",
    sample := some <| lines [
      "#include <math.h>",
      "long double r = log1pl(expl(1.0L) - 1.0L); // r ~= 1.0L"] },
  { id := "id-log2", token := "log2", category := .identifier,
    description :=
      "Returns the base-2 logarithm of `x` as a `double`. Domain: `x > 0`.",
    sample := some <| lines [
      "#include <math.h>",
      "double r = log2(16.0); // r == 4.0"] },
  { id := "id-log2f", token := "log2f", category := .identifier,
    description :=
      "Float version of `log2`.",
    sample := some <| lines [
      "#include <math.h>",
      "float r = log2f(8.0f); // r == 3.0f"] },
  { id := "id-log2l", token := "log2l", category := .identifier,
    description :=
      "Long double version of `log2`.",
    sample := some <| lines [
      "#include <math.h>",
      "long double r = log2l(32.0L); // r == 5.0L"] },
  { id := "id-logb", token := "logb", category := .identifier,
    description := paragraph [
      "Returns the unbiased exponent of `x` as a floating value. For",
      "normal numbers,\nequivalent to `floor(log2(|x|))`. Domain excludes",
      "`x == 0` (returns `-HUGE_VAL`)."],
    sample := some <| lines [
      "#include <math.h>",
      "double r = logb(16.0); // r == 4.0"] },
  { id := "id-logbf", token := "logbf", category := .identifier,
    description :=
      "Float version of `logb`.",
    sample := some <| lines [
      "#include <math.h>",
      "float r = logbf(0.5f); // r == -1.0f"] },
  { id := "id-logbl", token := "logbl", category := .identifier,
    description :=
      "Long double version of `logb`.",
    sample := some <| lines [
      "#include <math.h>",
      "long double r = logbl(8.0L); // r == 3.0L"] },
  { id := "id-logf", token := "logf", category := .identifier,
    description :=
      "Float version of natural logarithm `log`.",
    sample := some <| lines [
      "#include <math.h>",
      "float r = logf(2.7182818f); // r ~= 1.0f"] },
  { id := "id-logl", token := "logl", category := .identifier,
    description :=
      "Long double version of natural logarithm `log`.",
    sample := some <| lines [
      "#include <math.h>",
      "long double r = logl(1.0L); // r == 0.0L"] },
  { id := "id-longjmp", token := "longjmp", category := .identifier,
    description := paragraph [
      "Performs a nonlocal jump to a point saved by `setjmp`. Causes",
      "`setjmp` to\nreturn `val` (or 1 if `val == 0`)."],
    sample := some <| lines [
      "#include <setjmp.h>",
      "#include <stdio.h>",
      "",
      "jmp_buf env;",
      "",
      "void f(void) \x7b",
      "    longjmp(env, 42);",
      "\x7d",
      "",
      "int main(void) \x7b",
      "    int r = setjmp(env);",
      "    if (r == 0) \x7b",
      "        f();",
      "        return 1; // not reached",
      "    \x7d",
      "    printf(\"Returned via longjmp with %d\\n\", r); // r == 42",
      "    return 0;",
      "\x7d"] },
  { id := "id-malloc", token := "malloc", category := .identifier,
    description := paragraph [
      "Allocates `size` bytes and returns a pointer to the allocated",
      "memory, or `NULL`\nif the allocation fails. The memory is",
      "uninitialized."],
    sample := some <| lines [
      "#include <stdlib.h>",
      "#include <stdio.h>",
      "",
      "int *p = (int *)malloc(3 * sizeof(int));",
      "if (p) \x7b",
      "    p[0] = 10; p[1] = 20; p[2] = 30; // OK",
      "    printf(\"%d %d %d\\n\", p[0], p[1], p[2]); // 10 20 30",
      "\x7d",
      "free(p);"] },
  { id := "id-mblen", token := "mblen", category := .identifier,
    description := paragraph [
      "Determines the number of bytes constituting the next multibyte",
      "character in the\ncurrent locale. Returns 0 for null byte, -1 on",
      "encoding error."],
    sample := some <| lines [
      "#include <stdlib.h>",
      "int r1 = mblen(\"A\", MB_CUR_MAX); // r1 == 1",
      "int r2 = mblen(\"\\0\", MB_CUR_MAX); // r2 == 0"] },
  { id := "id-mbrlen", token := "mbrlen", category := .identifier,
    description := paragraph [
      "State-dependent version of `mblen`. Returns the number of bytes of",
      "the next\nmultibyte character, (size_t)-2 if incomplete,",
      "(size_t)-1 on error."],
    sample := some <| lines [
      "#include <wchar.h>",
      "mbstate_t st = \x7b0\x7d;",
      "size_t n = mbrlen(\"A\", MB_CUR_MAX, &st); // n == 1"] },
  { id := "id-mbrtoc16", token := "mbrtoc16", category := .identifier,
    description := paragraph [
      "Converts the next multibyte character to `char16_t`. Returns bytes",
      "consumed,\n(size_t)-2 if incomplete, (size_t)-1 on error."],
    sample := some <| lines [
      "#include <uchar.h>",
      "#include <wchar.h>",
      "mbstate_t st = \x7b0\x7d;",
      "char16_t out;",
      "size_t n = mbrtoc16(&out, \"A\", MB_CUR_MAX, &st); // n == 1, out == u'A'"] },
  { id := "id-mbrtoc32", token := "mbrtoc32", category := .identifier,
    description := paragraph [
      "Converts the next multibyte character to `char32_t`. Returns bytes",
      "consumed,\n(size_t)-2 if incomplete, (size_t)-1 on error."],
    sample := some <| lines [
      "#include <uchar.h>",
      "#include <wchar.h>",
      "mbstate_t st = \x7b0\x7d;",
      "char32_t out;",
      "size_t n = mbrtoc32(&out, \"A\", MB_CUR_MAX, &st); // n == 1, out == U'A'"] },
  { id := "id-mbrtowc", token := "mbrtowc", category := .identifier,
    description := paragraph [
      "Converts the next multibyte character to `wchar_t`. Returns bytes",
      "consumed,\n(size_t)-2 if incomplete, (size_t)-1 on error."],
    sample := some <| lines [
      "#include <wchar.h>",
      "mbstate_t st = \x7b0\x7d;",
      "wchar_t wc;",
      "size_t n = mbrtowc(&wc, \"A\", MB_CUR_MAX, &st); // n == 1, wc == L'A'"] },
  { id := "id-mbsinit", token := "mbsinit", category := .identifier,
    description := paragraph [
      "Tests whether the conversion state object `mbstate_t` is in the",
      "initial state.\nReturns nonzero if initial or if the pointer is",
      "`NULL`."],
    sample := some <| lines [
      "#include <wchar.h>",
      "mbstate_t st = \x7b0\x7d;",
      "int r = mbsinit(&st); // r != 0"] },
  { id := "id-mbsnrtowcs", token := "mbsnrtowcs", category := .identifier,
    description := paragraph [
      "Converts a multibyte string to wide string, processing at most `n`",
      "bytes.\nUpdates the source pointer. Returns number of wide",
      "characters written."],
    sample := some <| lines [
      "#include <wchar.h>",
      "const char *src = \"Hi\";",
      "mbstate_t st = \x7b0\x7d;",
      "wchar_t dst[8];",
      "size_t r = mbsnrtowcs(dst, &src, 2, 8, &st); // r == 2"] },
  { id := "id-mbsrtowcs", token := "mbsrtowcs", category := .identifier,
    description := paragraph [
      "Converts a NUL-terminated multibyte string to a wide-character",
      "string. Returns\nthe number of wide characters written (excluding",
      "terminator)."],
    sample := some <| lines [
      "#include <wchar.h>",
      "const char *src = \"Hello\";",
      "mbstate_t st = \x7b0\x7d;",
      "wchar_t dst[16];",
      "size_t r = mbsrtowcs(dst, &src, 16, &st); // r == 5"] },
  { id := "id-mbstowcs", token := "mbstowcs", category := .identifier,
    description := paragraph [
      "Converts a multibyte string to a wide-character string using the",
      "current\nlocale. Returns the number of wide characters written",
      "(excluding terminator),\nor `(size_t)-1` on encoding error."],
    sample := some <| lines [
      "#include <stdlib.h>",
      "const char *src = \"OK\";",
      "wchar_t dst[8];",
      "size_t r = mbstowcs(dst, src, 8); // r == 2"] },
  { id := "id-mbtowc", token := "mbtowc", category := .identifier,
    description := paragraph [
      "Converts the next multibyte character to `wchar_t`. Returns number",
      "of bytes\nprocessed, 0 for null, or -1 on encoding error."],
    sample := some <| lines [
      "#include <stdlib.h>",
      "wchar_t wc;",
      "int n = mbtowc(&wc, \"A\", MB_CUR_MAX); // n == 1, wc == L'A'"] },
  { id := "id-memchr", token := "memchr", category := .identifier,
    description := paragraph [
      "Scans the first `n` bytes of the memory block for the first",
      "occurrence of byte\n`c`. Returns pointer to match or `NULL`."],
    sample := some <| lines [
      "#include <string.h>",
      "const char *s = \"hello\";",
      "const char *p = (const char *)memchr(s, 'e', 5); // p == &s[1]"] },
  { id := "id-memcmp", token := "memcmp", category := .identifier,
    description := paragraph [
      "Compares the first `n` bytes of two memory blocks. Returns <0, 0,",
      ">0 if first\nis less than, equal to, or greater than second."],
    sample := some <| lines [
      "#include <string.h>",
      "int r1 = memcmp(\"abc\", \"abc\", 3); // r1 == 0",
      "int r2 = memcmp(\"abc\", \"abd\", 3); // r2 < 0"] },
  { id := "id-memcpy", token := "memcpy", category := .identifier,
    description := paragraph [
      "Copies `n` bytes from source to destination. The memory regions",
      "must not\noverlap."],
    sample := some <| lines [
      "#include <string.h>",
      "char dst[4];",
      "memcpy(dst, \"abc\", 4); // copies 'a','b','c','\\0'",
      "// dst now contains \"abc\""] },
  { id := "id-memmove", token := "memmove", category := .identifier,
    description := paragraph [
      "Copies `n` bytes between memory areas, safe for overlapping",
      "regions."],
    sample := some <| lines [
      "#include <string.h>",
      "char s[] = \"abcdef\";",
      "memmove(s + 2, s, 4); // s becomes \"ababcd\""] },
  { id := "id-memset", token := "memset", category := .identifier,
    description := paragraph [
      "Fills the first `n` bytes of the memory block with the byte value",
      "`c`."],
    sample := some <| lines [
      "#include <string.h>",
      "char buf[5];",
      "memset(buf, '*', 4); buf[4] = '\\0';",
      "// buf contains \"****\""] },
  { id := "id-mktime", token := "mktime", category := .identifier,
    description := paragraph [
      "Converts local calendar time (broken-down `struct tm`) to `time_t`",
      "and\nnormalizes the fields. Updates `tm_wday` and `tm_yday`."],
    sample := some <| lines [
      "#include <time.h>",
      "struct tm tm = \x7b0\x7d;",
      "tm.tm_year = 120; // years since 1900 -> 2020",
      "tm.tm_mon  = 0;   // January",
      "tm.tm_mday = 1;   // 1st",
      "mktime(&tm);",
      "int wday = tm.tm_wday; // wday == 3 (Wednesday)"] },
  { id := "id-modf", token := "modf", category := .identifier,
    description := paragraph [
      "Decomposes `x` into fractional and integral parts. Returns the",
      "fractional part\nwith the same sign as `x`, and stores the",
      "integral part in `*iptr`."],
    sample := some <| lines [
      "#include <math.h>",
      "double ip;",
      "double frac = modf(3.75, &ip); // ip == 3.0, frac == 0.75"] },
  { id := "id-modff", token := "modff", category := .identifier,
    description :=
      "Float version of `modf`.",
    sample := some <| lines [
      "#include <math.h>",
      "float ip;",
      "float frac = modff(2.5f, &ip); // ip == 2.0f, frac == 0.5f"] },
  { id := "id-modfl", token := "modfl", category := .identifier,
    description :=
      "Long double version of `modf`.",
    sample := some <| lines [
      "#include <math.h>",
      "long double ip;",
      "long double frac = modfl(1.25L, &ip); // ip == 1.0L, frac == 0.25L"] },
  { id := "id-nan", token := "nan", category := .identifier,
    description := paragraph [
      "Generates a quiet NaN value, optionally using a string tag. Result",
      "compares\nunequal to all values, including itself."],
    sample := some <| lines [
      "#include <math.h>",
      "#include <stdbool.h>",
      "double x = nan(\"\"); // x is NaN",
      "bool b = (x != x);   // b == true"] },
  { id := "id-nanf", token := "nanf", category := .identifier,
    description := paragraph [
      "Generates a quiet NaN value of type `float`, optionally using a",
      "string tag."],
    sample := some <| lines [
      "#include <math.h>",
      "float x = nanf(\"\"); // x is NaN",
      "int is_nan = (x != x); // is_nan == 1"] },
  { id := "id-nanl", token := "nanl", category := .identifier,
    description := paragraph [
      "Generates a quiet NaN value of type `long double`, optionally",
      "using a string tag."],
    sample := some <| lines [
      "#include <math.h>",
      "long double x = nanl(\"\"); // x is NaN",
      "int is_nan = (x != x);     // is_nan == 1"] },
  { id := "id-nearbyint", token := "nearbyint", category := .identifier,
    description := paragraph [
      "Rounds `x` to the nearest integer value in floating type according",
      "to the current\nrounding mode (default: ties-to-even). Does not",
      "raise inexact."],
    sample := some <| lines [
      "#include <math.h>",
      "double r = nearbyint(2.5); // with ties-to-even, r == 2.0"] },
  { id := "id-nearbyintf", token := "nearbyintf", category := .identifier,
    description :=
      "Float version of `nearbyint`.",
    sample := some <| lines [
      "#include <math.h>",
      "float r = nearbyintf(3.5f); // with ties-to-even, r == 4.0f"] },
  { id := "id-nearbyintl", token := "nearbyintl", category := .identifier,
    description :=
      "Long double version of `nearbyint`.",
    sample := some <| lines [
      "#include <math.h>",
      "long double r = nearbyintl(1.5L); // with ties-to-even, r == 2.0L"] },
  { id := "id-nextafter", token := "nextafter", category := .identifier,
    description := paragraph [
      "Returns the next representable `double` value after `x` in the",
      "direction of `y`."],
    sample := some <| lines [
      "#include <math.h>",
      "double y = nextafter(1.0, 2.0); // y > 1.0 by the smallest possible increment"] },
  { id := "id-nextafterf", token := "nextafterf", category := .identifier,
    description :=
      "Float version of `nextafter`.",
    sample := some <| lines [
      "#include <math.h>",
      "float y = nextafterf(1.0f, 0.0f); // y < 1.0f by the smallest decrement"] },
  { id := "id-nextafterl", token := "nextafterl", category := .identifier,
    description :=
      "Long double version of `nextafter`.",
    sample := some <| lines [
      "#include <math.h>",
      "long double y = nextafterl(0.0L, 1.0L); // y > 0.0L by the smallest increment"] },
  { id := "id-nexttoward", token := "nexttoward", category := .identifier,
    description := paragraph [
      "Returns the next representable `double` after `x` toward `y` (long",
      "double direction argument)."],
    sample := some <| lines [
      "#include <math.h>",
      "double y = nexttoward(1.0, 2.0L); // moves one ULP toward 2.0"] },
  { id := "id-nexttowardf", token := "nexttowardf", category := .identifier,
    description :=
      "Float version of `nexttoward`.",
    sample := some <| lines [
      "#include <math.h>",
      "float y = nexttowardf(0.0f, 1.0L); // moves one ULP toward 1.0"] },
  { id := "id-nexttowardl", token := "nexttowardl", category := .identifier,
    description :=
      "Long double version of `nexttoward`.",
    sample := some <| lines [
      "#include <math.h>",
      "long double y = nexttowardl(1.0L, 0.0L); // moves one ULP toward 0.0"] },
  { id := "id-perror", token := "perror", category := .identifier,
    description := paragraph [
      "Prints a descriptive error message to `stderr` for the current",
      "`errno`, prefixed\nby the given string."],
    sample := some <| lines [
      "#include <stdio.h>",
      "",
      "FILE *f = fopen(\"/no/such/file.txt\", \"r\");",
      "if (!f) \x7b",
      "    perror(\"fopen\"); // e.g., \"fopen: No such file or directory\"",
      "\x7d"] },
  { id := "id-pow", token := "pow", category := .identifier,
    description :=
      "Returns `x` raised to the power `y` as `double`.",
    sample := some <| lines [
      "#include <math.h>",
      "double r = pow(2.0, 10.0); // r == 1024.0"] },
  { id := "id-powf", token := "powf", category := .identifier,
    description :=
      "Float version of `pow`.",
    sample := some <| lines [
      "#include <math.h>",
      "float r = powf(3.0f, 3.0f); // r == 27.0f"] },
  { id := "id-powl", token := "powl", category := .identifier,
    description :=
      "Long double version of `pow`.",
    sample := some <| lines [
      "#include <math.h>",
      "long double r = powl(10.0L, 2.0L); // r == 100.0L"] },
  { id := "id-printf", token := "printf", category := .identifier,
    description :=
      "Writes formatted output to `stdout`.",
    sample := some <| lines [
      "#include <stdio.h>",
      "int n = printf(\"Hello %d\\n\", 42); // prints \"Hello 42\" and newline; n == 9"] },
  { id := "id-putc", token := "putc", category := .identifier,
    description := paragraph [
      "Writes a character to the given stream. Typically a macro that",
      "calls `fputc`."],
    sample := some <| lines [
      "#include <stdio.h>",
      "FILE *f = fopen(\"out.txt\", \"w\");",
      "putc('A', f);",
      "fclose(f); // out.txt now contains \"A\""] },
  { id := "id-putchar", token := "putchar", category := .identifier,
    description :=
      "Writes a character to `stdout`.",
    sample := some <| lines [
      "#include <stdio.h>",
      "putchar('A');",
      "putchar('\\n'); // outputs: A\\n"] },
  { id := "id-puts", token := "puts", category := .identifier,
    description :=
      "Writes a string to `stdout` followed by a newline.",
    sample := some <| lines [
      "#include <stdio.h>",
      "int n = puts(\"Hello\"); // outputs: Hello\\n; n >= 0"] },
  { id := "id-qsort", token := "qsort", category := .identifier,
    description := paragraph [
      "Sorts an array using the quicksort algorithm with a user-provided",
      "comparator."],
    sample := some <| lines [
      "#include <stdlib.h>",
      "#include <stdio.h>",
      "",
      "int cmp_ints(const void *a, const void *b) \x7b",
      "    int ia = *(const int *)a;",
      "    int ib = *(const int *)b;",
      "    return (ia > ib) - (ia < ib);",
      "\x7d",
      "",
      "int arr[5] = \x7b3, 1, 4, 1, 5\x7d;",
      "qsort(arr, 5, sizeof(int), cmp_ints);",
      "// arr is now \x7b1, 1, 3, 4, 5\x7d"] },
  { id := "id-quick_exit", token := "quick_exit", category := .identifier,
    description := paragraph [
      "Terminates the program quickly without calling `atexit` handlers;",
      "calls\n`at_quick_exit` handlers instead."],
    sample := some <| lines [
      "#include <stdlib.h>",
      "// at_quick_exit handlers (if any) would run here",
      "quick_exit(0); // program terminates immediately"] },
  { id := "id-raise", token := "raise", category := .identifier,
    description :=
      "Sends the signal `sig` to the calling process.",
    sample := some <| lines [
      "#include <signal.h>",
      "#include <stdio.h>",
      "",
      "void handler(int s) \x7b printf(\"handled %d\\n\", s); \x7d",
      "",
      "signal(SIGINT, handler);",
      "raise(SIGINT); // prints: handled 2"] },
  { id := "id-rand", token := "rand", category := .identifier,
    description := paragraph [
      "Returns a pseudo-random integer in the range `[0, RAND_MAX]`. Use",
      "`srand` to\nseed."],
    sample := some <| lines [
      "#include <stdlib.h>",
      "srand(1234);",
      "int r = rand(); // r is deterministic given the seed, 0 <= r <= RAND_MAX"] },
  { id := "id-realloc", token := "realloc", category := .identifier,
    description := paragraph [
      "Changes the size of the memory block pointed to by `ptr`.",
      "Preserves existing\ncontents up to the lesser of old and new",
      "sizes; may move the block."],
    sample := some <| lines [
      "#include <stdlib.h>",
      "int *p = (int *)malloc(2 * sizeof(int));",
      "p[0] = 7; p[1] = 9;",
      "p = (int *)realloc(p, 4 * sizeof(int));",
      "p[2] = 11; p[3] = 13;",
      "// p now has \x7b7, 9, 11, 13\x7d",
      "free(p);"] },
  { id := "id-remainder", token := "remainder", category := .identifier,
    description := paragraph [
      "Returns the IEEE remainder of `x` with respect to `y`: `x - y *",
      "rint(x/y)`\nwith ties-to-even; magnitude of result ≤ `y/2`."],
    sample := some <| lines [
      "#include <math.h>",
      "double r = remainder(6.0, 4.0); // 6/4=1.5 -> nearest even 2 -> r == -2.0"] },
  { id := "id-remainderf", token := "remainderf", category := .identifier,
    description :=
      "Float version of `remainder`.",
    sample := some <| lines [
      "#include <math.h>",
      "float r = remainderf(5.0f, 2.0f); // 5/2=2.5 -> nearest even 2 -> r == 1.0f"] },
  { id := "id-remainderl", token := "remainderl", category := .identifier,
    description :=
      "Long double version of `remainder`.",
    sample := some <| lines [
      "#include <math.h>",
      "long double r = remainderl(7.0L, 4.0L); // 7/4=1.75 -> r == -1.0L"] },
  { id := "id-remove", token := "remove", category := .identifier,
    description :=
      "Deletes the file with the given pathname. Returns 0 on success.",
    sample := some <| lines [
      "#include <stdio.h>",
      "FILE *f = fopen(\"temp.txt\", \"w\");",
      "if (f) \x7b fputs(\"x\", f); fclose(f); \x7d",
      "int r = remove(\"temp.txt\"); // r == 0 on success"] },
  { id := "id-remquo", token := "remquo", category := .identifier,
    description := paragraph [
      "Returns the IEEE remainder as `remainder(x,y)` and stores in",
      "`*quo` some low\norder bits of the integral quotient of `x/y` with",
      "sign."],
    sample := some <| lines [
      "#include <math.h>",
      "int q;",
      "double r = remquo(29.0, 8.0, &q); // r == -3.0; q holds low-order quotient bits"] },
  { id := "id-remquof", token := "remquof", category := .identifier,
    description :=
      "Float version of `remquo`.",
    sample := some <| lines [
      "#include <math.h>",
      "int q;",
      "float r = remquof(10.0f, 4.0f, &q); // r == -2.0f; q stores quotient bits"] },
  { id := "id-remquol", token := "remquol", category := .identifier,
    description :=
      "Long double version of `remquo`.",
    sample := some <| lines [
      "#include <math.h>",
      "int q;",
      "long double r = remquol(13.0L, 4.0L, &q); // r == 1.0L; q stores quotient bits"] },
  { id := "id-rename", token := "rename", category := .identifier,
    description :=
      "Changes the name or location of a file. Returns 0 on success.",
    sample := some <| lines [
      "#include <stdio.h>",
      "FILE *f = fopen(\"old.txt\", \"w\"); if (f) \x7b fputs(\"x\", f); fclose(f); \x7d",
      "int r = rename(\"old.txt\", \"new.txt\"); // r == 0 on success"] },
  { id := "id-rewind", token := "rewind", category := .identifier,
    description := paragraph [
      "Equivalent to `fseek(stream, 0L, SEEK_SET)` and clears error and",
      "EOF indicators."],
    sample := some <| lines [
      "#include <stdio.h>",
      "FILE *fp = fopen(\"example.txt\", \"r\");",
      "fgetc(fp); rewind(fp);",
      "int ch = fgetc(fp); // back to first byte",
      "fclose(fp);"] }]

end CLexicon.Dictionary
