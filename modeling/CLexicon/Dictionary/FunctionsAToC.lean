import CLexicon.Dictionary.Layout

/-!
# Library functions, A to C

The functions and types of the standard library whose names start with `a`,
`b` or `c`.
-/

namespace CLexicon.Dictionary

/-- The functions and types of the standard library whose names start with `a`,
`b` or `c`. -/
def functionsAToC : List RawItem := [
  { id := "id-abort", token := "abort", category := .identifier,
    description := paragraph [
      "Abnormal process termination. Raises `SIGABRT`; does not call",
      "`atexit` handlers."],
    sample := some <| lines [
      "#include <stdlib.h>",
      "void fatal(void) \x7b abort(); \x7d"] },
  { id := "id-abs", token := "abs", category := .identifier,
    description :=
      "Returns absolute value of an `int`.",
    sample := some <| lines [
      "#include <stdlib.h>",
      "int m = abs(-42); // 42"] },
  { id := "id-acos", token := "acos", category := .identifier,
    description :=
      "Arc cosine of a floating-point value (in radians). Domain: [-1, 1].",
    sample := some <| lines [
      "#include <math.h>",
      "double x = acos(1.0); // 0.0"] },
  { id := "id-acosf", token := "acosf", category := .identifier,
    description :=
      "`float` version of `acos`.",
    sample := some <| lines [
      "#include <math.h>",
      "float x = acosf(0.0f);"] },
  { id := "id-acosh", token := "acosh", category := .identifier,
    description :=
      "Inverse hyperbolic cosine. Domain: x >= 1.",
    sample := some <| lines [
      "#include <math.h>",
      "double y = acosh(1.0); // 0.0"] },
  { id := "id-acoshf", token := "acoshf", category := .identifier,
    description :=
      "`float` version of `acosh`.",
    sample := some <| lines [
      "#include <math.h>",
      "float y = acoshf(1.0f);"] },
  { id := "id-acoshl", token := "acoshl", category := .identifier,
    description :=
      "`long double` version of `acosh`.",
    sample := some <| lines [
      "#include <math.h>",
      "long double y = acoshl(1.0L);"] },
  { id := "id-acosl", token := "acosl", category := .identifier,
    description :=
      "`long double` version of `acos`.",
    sample := some <| lines [
      "#include <math.h>",
      "long double x = acosl(1.0L);"] },
  { id := "id-aligned_alloc", token := "aligned_alloc",
    category := .identifier,
    description := paragraph [
      "Allocates memory with the specified alignment. Size must be a",
      "multiple of alignment; alignment must be a power of two and",
      "multiple of `sizeof(void*)`."],
    sample := some <| lines [
      "#include <stdlib.h>",
      "void *p = aligned_alloc(16, 64);"] },
  { id := "id-asctime", token := "asctime", category := .identifier,
    description := paragraph [
      "Converts `struct tm` to a fixed-format string. Not thread-safe;",
      "consider `asctime_r` where available."],
    sample := some <| lines [
      "#include <time.h>",
      "char *s = asctime(gmtime(&(time_t)\x7b0\x7d));"] },
  { id := "id-asin", token := "asin", category := .identifier,
    description :=
      "Arc sine (radians). Domain: [-1, 1].",
    sample := some <| lines [
      "#include <math.h>",
      "double v = asin(0.0);"] },
  { id := "id-asinf", token := "asinf", category := .identifier,
    description :=
      "`float` version of `asin`.",
    sample := some <| lines [
      "#include <math.h>",
      "float v = asinf(0.0f);"] },
  { id := "id-asinh", token := "asinh", category := .identifier,
    description :=
      "Inverse hyperbolic sine.",
    sample := some <| lines [
      "#include <math.h>",
      "double v = asinh(0.0);"] },
  { id := "id-asinhf", token := "asinhf", category := .identifier,
    description :=
      "`float` version of `asinh`.",
    sample := some <| lines [
      "#include <math.h>",
      "float v = asinhf(0.0f);"] },
  { id := "id-asinhl", token := "asinhl", category := .identifier,
    description :=
      "`long double` version of `asinh`.",
    sample := some <| lines [
      "#include <math.h>",
      "long double v = asinhl(0.0L);"] },
  { id := "id-asinl", token := "asinl", category := .identifier,
    description :=
      "`long double` version of `asin`.",
    sample := some <| lines [
      "#include <math.h>",
      "long double v = asinl(0.5L);"] },
  { id := "id-assert", token := "assert", category := .identifier,
    description := paragraph [
      "Diagnostic macro that aborts the program if its condition is false",
      "(disabled if `NDEBUG` is defined)."],
    sample := some <| lines [
      "#include <assert.h>",
      "assert(sizeof(int) >= 2);"] },
  { id := "id-atan", token := "atan", category := .identifier,
    description :=
      "Arc tangent (radians). Range: (-pi/2, pi/2).",
    sample := some <| lines [
      "#include <math.h>",
      "double a = atan(1.0);"] },
  { id := "id-atan2", token := "atan2", category := .identifier,
    description := paragraph [
      "Arc tangent of `y/x` using signs to determine the correct",
      "quadrant. Returns angle in radians."],
    sample := some <| lines [
      "#include <math.h>",
      "double a = atan2(1.0, 1.0);"] },
  { id := "id-atan2f", token := "atan2f", category := .identifier,
    description :=
      "`float` version of `atan2`.",
    sample := some <| lines [
      "#include <math.h>",
      "float a = atan2f(1.0f, 1.0f);"] },
  { id := "id-atan2l", token := "atan2l", category := .identifier,
    description :=
      "`long double` version of `atan2`.",
    sample := some <| lines [
      "#include <math.h>",
      "long double a = atan2l(1.0L, 1.0L);"] },
  { id := "id-atanf", token := "atanf", category := .identifier,
    description :=
      "`float` version of `atan`.",
    sample := some <| lines [
      "#include <math.h>",
      "float a = atanf(1.0f);"] },
  { id := "id-atanh", token := "atanh", category := .identifier,
    description :=
      "Inverse hyperbolic tangent. Domain: (-1, 1).",
    sample := some <| lines [
      "#include <math.h>",
      "double t = atanh(0.5);"] },
  { id := "id-atanhf", token := "atanhf", category := .identifier,
    description :=
      "`float` version of `atanh`.",
    sample := some <| lines [
      "#include <math.h>",
      "float t = atanhf(0.5f);"] },
  { id := "id-atanhl", token := "atanhl", category := .identifier,
    description :=
      "`long double` version of `atanh`.",
    sample := some <| lines [
      "#include <math.h>",
      "long double t = atanhl(0.5L);"] },
  { id := "id-atanl", token := "atanl", category := .identifier,
    description := paragraph [
      "Arc tangent of a `long double` value (radians). Range: (-pi/2,",
      "pi/2)."],
    sample := some <| lines [
      "#include <math.h>",
      "long double r = atanl(0.5L);"] },
  { id := "id-atexit", token := "atexit", category := .identifier,
    description := paragraph [
      "Registers a function to be called at normal program termination",
      "(via `return` from `main` or `exit`). Called in reverse",
      "registration order."],
    sample := some <| lines [
      "#include <stdlib.h>",
      "static void on_exit(void) \x7b /* cleanup */ \x7d",
      "int main(void) \x7b atexit(on_exit); return 0; \x7d"] },
  { id := "id-atof", token := "atof", category := .identifier,
    description := paragraph [
      "Converts a C string to `double`. No error reporting on",
      "overflow/underflow; prefer `strtod` for robust parsing."],
    sample := some <| lines [
      "#include <stdlib.h>",
      "double v = atof(\"3.14\");"] },
  { id := "id-atoi", token := "atoi", category := .identifier,
    description := paragraph [
      "Converts a C string to `int`. No error reporting; prefer `strtol`",
      "for robust parsing."],
    sample := some <| lines [
      "#include <stdlib.h>",
      "int n = atoi(\"42\");"] },
  { id := "id-atol", token := "atol", category := .identifier,
    description :=
      "Converts a C string to `long`. No error reporting; prefer `strtol`.",
    sample := some <| lines [
      "#include <stdlib.h>",
      "long n = atol(\"123456\");"] },
  { id := "id-atoll", token := "atoll", category := .identifier,
    description := paragraph [
      "Converts a C string to `long long`. No error reporting; prefer",
      "`strtoll`."],
    sample := some <| lines [
      "#include <stdlib.h>",
      "long long n = atoll(\"123456789\");"] },
  { id := "id-bsearch", token := "bsearch", category := .identifier,
    description := paragraph [
      "Binary search in a sorted array. Returns a pointer to a matching",
      "element or `NULL`."],
    sample := some <| lines [
      "#include <stdlib.h>",
      "int cmp(const void *a, const void *b) \x7b return (*(const int*)a - *(const int*)b); \x7d",
      "int arr[] = \x7b1,2,3,4,5\x7d;",
      "int key = 3; int *found = bsearch(&key, arr, 5, sizeof(int), cmp);"] },
  { id := "id-btowc", token := "btowc", category := .identifier,
    description := paragraph [
      "Converts a single-byte character to wide character using current",
      "locale. Returns `WEOF` on failure or if `c` is `EOF`."],
    sample := some <| lines [
      "#include <wchar.h>",
      "wint_t wc = btowc('A');"] },
  { id := "id-calloc", token := "calloc", category := .identifier,
    description := paragraph [
      "Allocates zero-initialized storage for an array (`nmemb * size`).",
      "Returns `NULL` on failure; beware multiplication overflow."],
    sample := some <| lines [
      "#include <stdlib.h>",
      "int *p = calloc(10, sizeof *p);"] },
  { id := "id-cabs", token := "cabs", category := .identifier,
    description :=
      "Magnitude (absolute value) of a `double _Complex` number.",
    sample := some <| lines [
      "#include <complex.h>",
      "double _Complex z = 3.0 + 4.0*I; double m = cabs(z); // 5.0"] },
  { id := "id-cabsf", token := "cabsf", category := .identifier,
    description :=
      "`float _Complex` version of `cabs`.",
    sample := some <| lines [
      "#include <complex.h>",
      "float _Complex z = 1.0f + 2.0f*I; float m = cabsf(z);"] },
  { id := "id-cabsl", token := "cabsl", category := .identifier,
    description :=
      "`long double _Complex` version of `cabs`.",
    sample := some <| lines [
      "#include <complex.h>",
      "long double _Complex z = 1.0L + 1.0L*I; long double m = cabsl(z);"] },
  { id := "id-cacos", token := "cacos", category := .identifier,
    description :=
      "Complex arc cosine of a `double _Complex` argument (radians).",
    sample := some <| lines [
      "#include <complex.h>",
      "double _Complex z = 1.0 + 0.0*I; double _Complex w = cacos(z);"] },
  { id := "id-cacosf", token := "cacosf", category := .identifier,
    description :=
      "`float _Complex` version of `cacos`.",
    sample := some <| lines [
      "#include <complex.h>",
      "float _Complex z = 0.5f + 0.0f*I; float _Complex w = cacosf(z);"] },
  { id := "id-cacosl", token := "cacosl", category := .identifier,
    description :=
      "`long double _Complex` version of `cacos`.",
    sample := some <| lines [
      "#include <complex.h>",
      "long double _Complex z = 1.0L + 0.0L*I; long double _Complex w = cacosl(z);"] },
  { id := "id-cacosh", token := "cacosh", category := .identifier,
    description :=
      "Complex inverse hyperbolic cosine for `double _Complex`.",
    sample := some <| lines [
      "#include <complex.h>",
      "double _Complex w = cacosh(1.0 + 2.0*I);"] },
  { id := "id-cacoshf", token := "cacoshf", category := .identifier,
    description :=
      "`float _Complex` version of `cacosh`.",
    sample := some <| lines [
      "#include <complex.h>",
      "float _Complex w = cacoshf(1.0f + 0.5f*I);"] },
  { id := "id-cacoshl", token := "cacoshl", category := .identifier,
    description :=
      "`long double _Complex` version of `cacosh`.",
    sample := some <| lines [
      "#include <complex.h>",
      "long double _Complex w = cacoshl(1.0L + 1.0L*I);"] },
  { id := "id-carg", token := "carg", category := .identifier,
    description :=
      "Argument (phase angle) of a `double _Complex` number, in radians.",
    sample := some <| lines [
      "#include <complex.h>",
      "double _Complex z = -1.0 + 0.0*I; double a = carg(z); // ~pi"] },
  { id := "id-cargf", token := "cargf", category := .identifier,
    description :=
      "`float _Complex` version of `carg`.",
    sample := some <| lines [
      "#include <complex.h>",
      "float _Complex z = 1.0f + 1.0f*I; float a = cargf(z);"] },
  { id := "id-cargl", token := "cargl", category := .identifier,
    description :=
      "`long double _Complex` version of `carg`.",
    sample := some <| lines [
      "#include <complex.h>",
      "long double _Complex z = 1.0L - 1.0L*I; long double a = cargl(z);"] },
  { id := "id-casin", token := "casin", category := .identifier,
    description :=
      "Complex arc sine for `double _Complex`.",
    sample := some <| lines [
      "#include <complex.h>",
      "double _Complex w = casin(0.5 + 0.5*I);"] },
  { id := "id-casinf", token := "casinf", category := .identifier,
    description :=
      "`float _Complex` version of `casin`.",
    sample := some <| lines [
      "#include <complex.h>",
      "float _Complex w = casinf(0.5f + 0.0f*I);"] },
  { id := "id-casinl", token := "casinl", category := .identifier,
    description :=
      "`long double _Complex` version of `casin`.",
    sample := some <| lines [
      "#include <complex.h>",
      "long double _Complex w = casinl(0.0L + 1.0L*I);"] },
  { id := "id-casinh", token := "casinh", category := .identifier,
    description :=
      "Complex inverse hyperbolic sine for `double _Complex`.",
    sample := some <| lines [
      "#include <complex.h>",
      "double _Complex w = casinh(1.0 + 1.0*I);"] },
  { id := "id-casinhf", token := "casinhf", category := .identifier,
    description :=
      "Complex inverse hyperbolic sine for `float _Complex`.",
    sample := some <| lines [
      "#include <complex.h>",
      "float _Complex z = 1.0f + 2.0f * I;",
      "float _Complex r = casinhf(z);",
      "// r holds asinh(z) in complex plane"] },
  { id := "id-catan", token := "catan", category := .identifier,
    description :=
      "Complex arc tangent for `double _Complex`.",
    sample := some <| lines [
      "#include <complex.h>",
      "double _Complex z = 1.0 + 2.0 * I;",
      "double _Complex r = catan(z);",
      "// r is atan(z) (principal value)"] },
  { id := "id-catanf", token := "catanf", category := .identifier,
    description :=
      "`float _Complex` version of `catan`.",
    sample := some <| lines [
      "#include <complex.h>",
      "float _Complex z = 1.0f + 2.0f * I;",
      "float _Complex r = catanf(z);",
      "// r is atan(z) for float complex"] },
  { id := "id-catanl", token := "catanl", category := .identifier,
    description :=
      "`long double _Complex` version of `catan`.",
    sample := some <| lines [
      "#include <complex.h>",
      "long double _Complex z = 1.0L + 2.0L * I;",
      "long double _Complex r = catanl(z);"] },
  { id := "id-catanh", token := "catanh", category := .identifier,
    description :=
      "Complex inverse hyperbolic tangent for `double _Complex`.",
    sample := some <| lines [
      "#include <complex.h>",
      "double _Complex z = 1.0 + 2.0 * I;",
      "double _Complex r = catanh(z);",
      "// r is atanh(z)"] },
  { id := "id-catanhf", token := "catanhf", category := .identifier,
    description :=
      "`float _Complex` version of `catanh`.",
    sample := some <| lines [
      "#include <complex.h>",
      "float _Complex z = 1.0f + 2.0f * I;",
      "float _Complex r = catanhf(z);"] },
  { id := "id-cbrt", token := "cbrt", category := .identifier,
    description :=
      "Cube root for `double`.",
    sample := some <| lines [
      "#include <math.h>",
      "double r = cbrt(27.0);",
      "// r == 3.0"] },
  { id := "id-cbrtf", token := "cbrtf", category := .identifier,
    description :=
      "`float` version of `cbrt`.",
    sample := some <| lines [
      "#include <math.h>",
      "float r = cbrtf(27.0f);"] },
  { id := "id-cbrtl", token := "cbrtl", category := .identifier,
    description :=
      "`long double` version of `cbrt`.",
    sample := some <| lines [
      "#include <math.h>",
      "long double r = cbrtl(27.0L);"] },
  { id := "id-ccos", token := "ccos", category := .identifier,
    description :=
      "Complex cosine for `double _Complex`.",
    sample := some <| lines [
      "#include <complex.h>",
      "double _Complex z = 1.0 + 2.0*I;",
      "double _Complex r = ccos(z);"] },
  { id := "id-ccosf", token := "ccosf", category := .identifier,
    description :=
      "`float _Complex` version of `ccos`.",
    sample := some <| lines [
      "#include <complex.h>",
      "float _Complex z = 1.0f + 2.0f*I;",
      "float _Complex r = ccosf(z);"] },
  { id := "id-ccosl", token := "ccosl", category := .identifier,
    description :=
      "`long double _Complex` version of `ccos`.",
    sample := some <| lines [
      "#include <complex.h>",
      "long double _Complex z = 1.0L + 2.0L*I;",
      "long double _Complex r = ccosl(z);"] },
  { id := "id-ccosh", token := "ccosh", category := .identifier,
    description :=
      "Complex hyperbolic cosine for `double _Complex`.",
    sample := some <| lines [
      "#include <complex.h>",
      "double _Complex r = ccosh(1.0 + 0.5*I);"] },
  { id := "id-ccoshf", token := "ccoshf", category := .identifier,
    description :=
      "`float _Complex` version of `ccosh`.",
    sample := some <| lines [
      "#include <complex.h>",
      "float _Complex r = ccoshf(1.0f + 0.5f*I);"] },
  { id := "id-cexp", token := "cexp", category := .identifier,
    description :=
      "Complex exponential for `double _Complex`: computes e^z.",
    sample := some <| lines [
      "#include <complex.h>",
      "double _Complex z = I * 3.141592653589793/2;",
      "double _Complex r = cexp(z);",
      "// r ≈ 0.0 + 1.0i"] },
  { id := "id-cexpf", token := "cexpf", category := .identifier,
    description :=
      "`float _Complex` version of `cexp`.",
    sample := some <| lines [
      "#include <complex.h>",
      "float _Complex r = cexpf(0.0f + I*0.0f);",
      "// r == 1.0f + 0.0fi"] },
  { id := "id-cexpl", token := "cexpl", category := .identifier,
    description :=
      "`long double _Complex` version of `cexp`.",
    sample := some <| lines [
      "#include <complex.h>",
      "long double _Complex r = cexplo(0.0L + I*0.0L);",
      "// r == 1.0L + 0.0Li"] },
  { id := "id-cimag", token := "cimag", category := .identifier,
    description :=
      "Imaginary part extractor for `double _Complex`.",
    sample := some <| lines [
      "#include <complex.h>",
      "double _Complex z = 2.0 + 3.0*I;",
      "double im = cimag(z); // 3.0"] },
  { id := "id-cimagf", token := "cimagf", category := .identifier,
    description :=
      "`float _Complex` version of `cimag`.",
    sample := some <| lines [
      "#include <complex.h>",
      "float _Complex z = 2.0f + 3.0f*I;",
      "float im = cimagf(z); // 3.0f"] },
  { id := "id-cimagl", token := "cimagl", category := .identifier,
    description :=
      "`long double _Complex` version of `cimag`.",
    sample := some <| lines [
      "#include <complex.h>",
      "long double _Complex z = 2.0L + 3.0L*I;",
      "long double im = cimagl(z); // 3.0L"] },
  { id := "id-conj", token := "conj", category := .identifier,
    description :=
      "Complex conjugate of `double _Complex`.",
    sample := some <| lines [
      "#include <complex.h>",
      "double _Complex z = 1.0 + 2.0*I;",
      "double _Complex r = conj(z); // 1.0 - 2.0i"] },
  { id := "id-conjf", token := "conjf", category := .identifier,
    description :=
      "`float _Complex` version of `conj`.",
    sample := some <| lines [
      "#include <complex.h>",
      "float _Complex z = 1.0f + 2.0f*I;",
      "float _Complex r = conjf(z); // 1.0f - 2.0fi"] },
  { id := "id-conjl", token := "conjl", category := .identifier,
    description :=
      "`long double _Complex` version of `conj`.",
    sample := some <| lines [
      "#include <complex.h>",
      "long double _Complex z = 1.0L + 2.0L*I;",
      "long double _Complex r = conjl(z); // 1.0L - 2.0Li"] },
  { id := "id-copysign", token := "copysign", category := .identifier,
    description := paragraph [
      "Returns a value with magnitude of first argument and sign of",
      "second."],
    sample := some <| lines [
      "#include <math.h>",
      "double r = copysign(3.5, -1.0); // -3.5"] },
  { id := "id-copysignf", token := "copysignf", category := .identifier,
    description :=
      "`float` version of `copysign`.",
    sample := some <| lines [
      "#include <math.h>",
      "float r = copysignf(2.0f, -0.0f); // -2.0f"] },
  { id := "id-copysignl", token := "copysignl", category := .identifier,
    description :=
      "`long double` version of `copysign`.",
    sample := some <| lines [
      "#include <math.h>",
      "long double r = copysignl(2.0L, -0.0L); // -2.0L"] },
  { id := "id-cos", token := "cos", category := .identifier,
    description :=
      "Cosine of an angle in radians (`double`).",
    sample := some <| lines [
      "#include <math.h>",
      "double r = cos(0.0); // 1.0"] },
  { id := "id-cosf", token := "cosf", category := .identifier,
    description :=
      "`float` version of `cos`.",
    sample := some <| lines [
      "#include <math.h>",
      "float r = cosf(0.0f); // 1.0f"] },
  { id := "id-cosh", token := "cosh", category := .identifier,
    description :=
      "Hyperbolic cosine (`double`).",
    sample := some <| lines [
      "#include <math.h>",
      "double r = cosh(0.0); // 1.0"] },
  { id := "id-coshf", token := "coshf", category := .identifier,
    description :=
      "`float` version of `cosh`.",
    sample := some <| lines [
      "#include <math.h>",
      "float r = coshf(0.0f); // 1.0f"] },
  { id := "id-coshl", token := "coshl", category := .identifier,
    description :=
      "`long double` version of `cosh`.",
    sample := some <| lines [
      "#include <math.h>",
      "long double r = coshl(0.0L); // 1.0L"] },
  { id := "id-cosl", token := "cosl", category := .identifier,
    description :=
      "`long double` version of `cos`.",
    sample := some <| lines [
      "#include <math.h>",
      "long double r = cosl(0.0L); // 1.0L"] },
  { id := "id-cpow", token := "cpow", category := .identifier,
    description := paragraph [
      "Complex power: raises `double _Complex` base to `double _Complex`",
      "exponent."],
    sample := some <| lines [
      "#include <complex.h>",
      "double _Complex r = cpow(2.0 + 0.0*I, 3.0 + 0.0*I); // 8.0 + 0.0i"] },
  { id := "id-cpowf", token := "cpowf", category := .identifier,
    description :=
      "`float _Complex` version of `cpow`.",
    sample := some <| lines [
      "#include <complex.h>",
      "float _Complex r = cpowf(2.0f + 0.0f*I, 3.0f + 0.0f*I); // 8.0f + 0.0fi"] },
  { id := "id-cpowl", token := "cpowl", category := .identifier,
    description :=
      "`long double _Complex` version of `cpow`.",
    sample := some <| lines [
      "#include <complex.h>",
      "long double _Complex r = cpowl(2.0L + 0.0L*I, 3.0L + 0.0L*I); // 8.0L + 0.0Li"] },
  { id := "id-cproj", token := "cproj", category := .identifier,
    description := paragraph [
      "Complex projection: maps finite values to themselves; maps",
      "infinities to a point on the Riemann sphere."],
    sample := some <| lines [
      "#include <complex.h>",
      "double _Complex r = cproj(INFINITY + INFINITY*I);",
      "// r is infinite on the real axis, imag == copysign(0.0, cimag)"] },
  { id := "id-cprojf", token := "cprojf", category := .identifier,
    description :=
      "`float _Complex` version of `cproj`.",
    sample := some <| lines [
      "#include <complex.h>",
      "float _Complex r = cprojf(INFINITY + INFINITY*I);"] },
  { id := "id-cprojl", token := "cprojl", category := .identifier,
    description :=
      "`long double _Complex` version of `cproj`.",
    sample := some <| lines [
      "#include <complex.h>",
      "long double _Complex r = cprojl(INFINITY + INFINITY*I);"] },
  { id := "id-creal", token := "creal", category := .identifier,
    description :=
      "Real part extractor for `double _Complex`.",
    sample := some <| lines [
      "#include <complex.h>",
      "double _Complex z = 2.0 + 3.0*I;",
      "double re = creal(z); // 2.0"] },
  { id := "id-crealf", token := "crealf", category := .identifier,
    description :=
      "`float _Complex` version of `creal`.",
    sample := some <| lines [
      "#include <complex.h>",
      "float _Complex z = 2.0f + 3.0f*I;",
      "float re = crealf(z); // 2.0f"] },
  { id := "id-creall", token := "creall", category := .identifier,
    description :=
      "`long double _Complex` version of `creal`.",
    sample := some <| lines [
      "#include <complex.h>",
      "long double _Complex z = 2.0L + 3.0L*I;",
      "long double re = creall(z); // 2.0L"] },
  { id := "id-ctime", token := "ctime", category := .identifier,
    description := paragraph [
      "Converts `time_t` to a human-readable local time string. Returns a",
      "pointer to a static buffer (not thread-safe)."],
    sample := some <| lines [
      "#include <time.h>",
      "time_t now = time(NULL);",
      "char *s = ctime(&now);",
      "// e.g., s == \"Sat Sep 13 05:12:08 2025\\n\""] }]

end CLexicon.Dictionary
