import CLexicon.Dictionary.Layout

/-!
# Constants

The macros of the standard library: the imaginary unit, the floating-point
environment, formats of integer types, error numbers, and limits.
-/

namespace CLexicon.Dictionary

/-- The macros of the standard library: the imaginary unit, the floating-point
environment, formats of integer types, error numbers, and limits. -/
def constants : List RawItem := [
  { id := "id-_i", token := "_I", category := .identifier,
    description := paragraph [
      "Imaginary unit for `_Complex` types in C when `<complex.h>` is",
      "included.\nEquivalent to `I`."],
    sample := some <| lines [
      "#include <complex.h>",
      "double complex z = 1.0 + 2.0*_I; // z == 1 + 2i"] },
  { id := "id-_complex_i", token := "_Complex_I", category := .identifier,
    description := paragraph [
      "Macro expanding to the imaginary unit of type `const float",
      "_Complex` promoted as\nneeded. Equivalent to `I` per",
      "`<complex.h>`."],
    sample := some <| lines [
      "#include <complex.h>",
      "double complex z = 3.0 + 4.0*_Complex_I; // z == 3 + 4i"] },
  { id := "id-i", token := "I", category := .identifier,
    description :=
      "Standard macro for the imaginary unit `i` from `<complex.h>`.",
    sample := some <| lines [
      "#include <complex.h>",
      "double complex z = 0.0 + 1.0*I; // z == i"] },
  { id := "id-fe_divbyzero", token := "FE_DIVBYZERO", category := .identifier,
    description := paragraph [
      "Floating-point exception macro indicating division by zero",
      "status/enable bit in\n`<fenv.h>`."],
    sample := some <| lines [
      "#include <fenv.h>",
      "int m = FE_DIVBYZERO; // use with fetestexcept(FE_DIVBYZERO)"] },
  { id := "id-fe_inexact", token := "FE_INEXACT", category := .identifier,
    description := paragraph [
      "Floating-point exception macro indicating inexact result",
      "status/enable bit in\n`<fenv.h>`."],
    sample := some <| lines [
      "#include <fenv.h>",
      "int m = FE_INEXACT; // use with fetestexcept(FE_INEXACT)"] },
  { id := "id-fe_invalid", token := "FE_INVALID", category := .identifier,
    description := paragraph [
      "Floating-point exception macro indicating invalid operation",
      "status/enable bit in\n`<fenv.h>`."],
    sample := some <| lines [
      "#include <fenv.h>",
      "int m = FE_INVALID; // use with fetestexcept(FE_INVALID)"] },
  { id := "id-fe_overflow", token := "FE_OVERFLOW", category := .identifier,
    description := paragraph [
      "Floating-point exception macro indicating overflow status/enable",
      "bit in\n`<fenv.h>`."],
    sample := some <| lines [
      "#include <fenv.h>",
      "int m = FE_OVERFLOW; // use with fetestexcept(FE_OVERFLOW)"] },
  { id := "id-fe_underflow", token := "FE_UNDERFLOW", category := .identifier,
    description := paragraph [
      "Floating-point exception macro indicating underflow status/enable",
      "bit in\n`<fenv.h>`."],
    sample := some <| lines [
      "#include <fenv.h>",
      "int m = FE_UNDERFLOW; // use with fetestexcept(FE_UNDERFLOW)"] },
  { id := "id-fe_all_except", token := "FE_ALL_EXCEPT",
    category := .identifier,
    description := paragraph [
      "Bitwise OR of all supported floating-point exception flags in",
      "`<fenv.h>`.\nUseful with `feclearexcept`, `fetestexcept`."],
    sample := some <| lines [
      "#include <fenv.h>",
      "feclearexcept(FE_ALL_EXCEPT);",
      "int raised = fetestexcept(FE_ALL_EXCEPT); // raised == 0"] },
  { id := "id-fe_downward", token := "FE_DOWNWARD", category := .identifier,
    description :=
      "Rounding direction macro in `<fenv.h>`: round toward −∞.",
    sample := some <| lines [
      "#include <fenv.h>",
      "fesetround(FE_DOWNWARD);"] },
  { id := "id-fe_tonearest", token := "FE_TONEAREST", category := .identifier,
    description := paragraph [
      "Rounding direction macro in `<fenv.h>`: round to nearest, ties to",
      "even."],
    sample := some <| lines [
      "#include <fenv.h>",
      "fesetround(FE_TONEAREST);"] },
  { id := "id-fe_towardzero", token := "FE_TOWARDZERO",
    category := .identifier,
    description := paragraph [
      "Rounding direction macro in `<fenv.h>`: round toward zero",
      "(truncate)."],
    sample := some <| lines [
      "#include <fenv.h>",
      "fesetround(FE_TOWARDZERO);"] },
  { id := "id-fe_upward", token := "FE_UPWARD", category := .identifier,
    description :=
      "Rounding direction macro in `<fenv.h>`: round toward +∞.",
    sample := some <| lines [
      "#include <fenv.h>",
      "fesetround(FE_UPWARD);"] },
  { id := "id-prid8", token := "PRId8", category := .identifier,
    description := paragraph [
      "`printf` format macro for signed 8-bit integer (`int8_t`): use",
      "with `%`."],
    sample := some <| lines [
      "#include <inttypes.h>",
      "int8_t v = -5;",
      "printf(\"%\" PRId8 \"\\n\", v); // prints: -5"] },
  { id := "id-prid16", token := "PRId16", category := .identifier,
    description :=
      "`printf` format macro for signed 16-bit integer (`int16_t`).",
    sample := some <| lines [
      "#include <inttypes.h>",
      "int16_t v = -1234;",
      "printf(\"%\" PRId16 \"\\n\", v); // prints: -1234"] },
  { id := "id-prid32", token := "PRId32", category := .identifier,
    description :=
      "`printf` format macro for signed 32-bit integer (`int32_t`).",
    sample := some <| lines [
      "#include <inttypes.h>",
      "int32_t v = -42;",
      "printf(\"%\" PRId32 \"\\n\", v); // prints: -42"] },
  { id := "id-prid64", token := "PRId64", category := .identifier,
    description :=
      "`printf` format macro for signed 64-bit integer (`int64_t`).",
    sample := some <| lines [
      "#include <inttypes.h>",
      "int64_t v = -9223372036854775807LL;",
      "printf(\"%\" PRId64 \"\\n\", v);"] },
  { id := "id-prii8", token := "PRIi8", category := .identifier,
    description := paragraph [
      "`printf` format macro for signed 8-bit integer (`int8_t`) in `i`",
      "style."],
    sample := some <| lines [
      "#include <inttypes.h>",
      "int8_t v = -5;",
      "printf(\"%\" PRIi8 \"\\n\", v); // prints: -5"] },
  { id := "id-prii16", token := "PRIi16", category := .identifier,
    description := paragraph [
      "`printf` format macro for signed 16-bit integer (`int16_t`) in `i`",
      "style."],
    sample := some <| lines [
      "#include <inttypes.h>",
      "int16_t v = -1234;",
      "printf(\"%\" PRIi16 \"\\n\", v);"] },
  { id := "id-prii32", token := "PRIi32", category := .identifier,
    description := paragraph [
      "`printf` format macro for signed 32-bit integer (`int32_t`) in `i`",
      "style."],
    sample := some <| lines [
      "#include <inttypes.h>",
      "int32_t v = -42;",
      "printf(\"%\" PRIi32 \"\\n\", v);"] },
  { id := "id-prii64", token := "PRIi64", category := .identifier,
    description := paragraph [
      "`printf` format macro for signed 64-bit integer (`int64_t`) in `i`",
      "style."],
    sample := some <| lines [
      "#include <inttypes.h>",
      "int64_t v = -42;",
      "printf(\"%\" PRIi64 \"\\n\", v);"] },
  { id := "id-prio8", token := "PRIo8", category := .identifier,
    description := paragraph [
      "`printf` format macro for unsigned 8-bit integer in octal",
      "(`uint8_t`)."],
    sample := some <| lines [
      "#include <inttypes.h>",
      "uint8_t v = 63;",
      "printf(\"%\" PRIo8 \"\\n\", v); // prints: 77"] },
  { id := "id-prio16", token := "PRIo16", category := .identifier,
    description := paragraph [
      "`printf` format macro for unsigned 16-bit integer in octal",
      "(`uint16_t`)."],
    sample := some <| lines [
      "#include <inttypes.h>",
      "uint16_t v = 511;",
      "printf(\"%\" PRIo16 \"\\n\", v); // prints: 777"] },
  { id := "id-prio32", token := "PRIo32", category := .identifier,
    description := paragraph [
      "`printf` format macro for unsigned 32-bit integer in octal",
      "(`uint32_t`)."],
    sample := some <| lines [
      "#include <inttypes.h>",
      "uint32_t v = 8;",
      "printf(\"%\" PRIo32 \"\\n\", v); // prints: 10"] },
  { id := "id-prio64", token := "PRIo64", category := .identifier,
    description := paragraph [
      "`printf` format macro for unsigned 64-bit integer in octal",
      "(`uint64_t`)."],
    sample := some <| lines [
      "#include <inttypes.h>",
      "uint64_t v = 64;",
      "printf(\"%\" PRIo64 \"\\n\", v); // prints: 100"] },
  { id := "id-priu8", token := "PRIu8", category := .identifier,
    description :=
      "`printf` format macro for unsigned 8-bit integer (`uint8_t`).",
    sample := some <| lines [
      "#include <inttypes.h>",
      "uint8_t v = 200;",
      "printf(\"%\" PRIu8 \"\\n\", v); // prints: 200"] },
  { id := "id-priu16", token := "PRIu16", category := .identifier,
    description :=
      "`printf` format macro for unsigned 16-bit integer (`uint16_t`).",
    sample := some <| lines [
      "#include <inttypes.h>",
      "uint16_t v = 65535;",
      "printf(\"%\" PRIu16 \"\\n\", v); // prints: 65535"] },
  { id := "id-priu32", token := "PRIu32", category := .identifier,
    description :=
      "`printf` format macro for unsigned 32-bit integer (`uint32_t`).",
    sample := some <| lines [
      "#include <inttypes.h>",
      "uint32_t v = 4294967295u;",
      "printf(\"%\" PRIu32 \"\\n\", v);"] },
  { id := "id-priu64", token := "PRIu64", category := .identifier,
    description :=
      "`printf` format macro for unsigned 64-bit integer (`uint64_t`).",
    sample := some <| lines [
      "#include <inttypes.h>",
      "uint64_t v = 18446744073709551615ull;",
      "printf(\"%\" PRIu64 \"\\n\", v);"] },
  { id := "id-prix8", token := "PRIx8", category := .identifier,
    description :=
      "`printf` format macro for unsigned 8-bit integer in lowercase hex.",
    sample := some <| lines [
      "#include <inttypes.h>",
      "uint8_t v = 255;",
      "printf(\"%\" PRIx8 \"\\n\", v); // prints: ff"] },
  { id := "id-prix16", token := "PRIx16", category := .identifier,
    description :=
      "`printf` format macro for unsigned 16-bit integer in lowercase hex.",
    sample := some <| lines [
      "#include <inttypes.h>",
      "uint16_t v = 48879;",
      "printf(\"%\" PRIx16 \"\\n\", v); // prints: beef"] },
  { id := "id-prix32", token := "PRIx32", category := .identifier,
    description :=
      "`printf` format macro for unsigned 32-bit integer in lowercase hex.",
    sample := some <| lines [
      "#include <inttypes.h>",
      "uint32_t v = 305419896u;",
      "printf(\"%\" PRIx32 \"\\n\", v); // prints: 12345678"] },
  { id := "id-prix64", token := "PRIx64", category := .identifier,
    description :=
      "`printf` format macro for unsigned 64-bit integer in lowercase hex.",
    sample := some <| lines [
      "#include <inttypes.h>",
      "uint64_t v = 0xFFFFFFFFFFFFFFFFull;",
      "printf(\"%\" PRIx64 \"\\n\", v); // prints: ffffffffffffffff"] },
  { id := "id-prix8", token := "PRIX8", category := .identifier,
    description :=
      "`printf` format macro for unsigned 8-bit integer in uppercase hex.",
    sample := some <| lines [
      "#include <inttypes.h>",
      "uint8_t v = 255;",
      "printf(\"%\" PRIX8 \"\\n\", v); // prints: FF"] },
  { id := "id-prix16", token := "PRIX16", category := .identifier,
    description :=
      "`printf` format macro for unsigned 16-bit integer in uppercase hex.",
    sample := some <| lines [
      "#include <inttypes.h>",
      "uint16_t v = 48879;",
      "printf(\"%\" PRIX16 \"\\n\", v); // prints: BEEF"] },
  { id := "id-prix32", token := "PRIX32", category := .identifier,
    description :=
      "`printf` format macro for unsigned 32-bit integer in uppercase hex.",
    sample := some <| lines [
      "#include <inttypes.h>",
      "uint32_t v = 305419896u;",
      "printf(\"%\" PRIX32 \"\\n\", v); // prints: 12345678 (uppercase letters if any)"] },
  { id := "id-prix64", token := "PRIX64", category := .identifier,
    description :=
      "`printf` format macro for unsigned 64-bit integer in uppercase hex.",
    sample := some <| lines [
      "#include <inttypes.h>",
      "uint64_t v = 0xABCDEF1234567890ull;",
      "printf(\"%\" PRIX64 \"\\n\", v); // prints: ABCDEF1234567890"] },
  { id := "id-scnd8", token := "SCNd8", category := .identifier,
    description :=
      "`scanf` format macro to read a signed 8-bit integer (`int8_t`).",
    sample := some <| lines [
      "#include <inttypes.h>",
      "int8_t v; sscanf(\"-5\", \"%\" SCNd8, &v); // v == -5"] },
  { id := "id-scnd16", token := "SCNd16", category := .identifier,
    description :=
      "`scanf` format macro to read a signed 16-bit integer (`int16_t`).",
    sample := some <| lines [
      "#include <inttypes.h>",
      "int16_t v; sscanf(\"-1234\", \"%\" SCNd16, &v); // v == -1234"] },
  { id := "id-scnd32", token := "SCNd32", category := .identifier,
    description :=
      "`scanf` format macro to read a signed 32-bit integer (`int32_t`).",
    sample := some <| lines [
      "#include <inttypes.h>",
      "int32_t v; sscanf(\"-42\", \"%\" SCNd32, &v); // v == -42"] },
  { id := "id-scnd64", token := "SCNd64", category := .identifier,
    description :=
      "`scanf` format macro to read a signed 64-bit integer (`int64_t`).",
    sample := some <| lines [
      "#include <inttypes.h>",
      "int64_t v; sscanf(\"-9223372036854775807\", \"%\" SCNd64, &v);"] },
  { id := "id-scni8", token := "SCNi8", category := .identifier,
    description := paragraph [
      "`scanf` format macro to read a signed 8-bit integer (`int8_t`) in",
      "`i` style\n(base-detecting)."],
    sample := some <| lines [
      "#include <inttypes.h>",
      "int8_t v; sscanf(\"-5\", \"%\" SCNi8, &v); // v == -5"] },
  { id := "id-scni16", token := "SCNi16", category := .identifier,
    description := paragraph [
      "`scanf` format macro to read a signed 16-bit integer (`int16_t`)",
      "in `i` style."],
    sample := some <| lines [
      "#include <inttypes.h>",
      "int16_t v; sscanf(\"-1234\", \"%\" SCNi16, &v);"] },
  { id := "id-scni32", token := "SCNi32", category := .identifier,
    description := paragraph [
      "`scanf` format macro to read a signed 32-bit integer (`int32_t`)",
      "in `i` style."],
    sample := some <| lines [
      "#include <inttypes.h>",
      "int32_t v; sscanf(\"-42\", \"%\" SCNi32, &v);"] },
  { id := "id-scni64", token := "SCNi64", category := .identifier,
    description := paragraph [
      "`scanf` format macro to read a signed 64-bit integer (`int64_t`)",
      "in `i` style."],
    sample := some <| lines [
      "#include <inttypes.h>",
      "int64_t v; sscanf(\"-42\", \"%\" SCNi64, &v);"] },
  { id := "id-scno8", token := "SCNo8", category := .identifier,
    description := paragraph [
      "`scanf` format macro to read an unsigned 8-bit integer in octal",
      "(`uint8_t`)."],
    sample := some <| lines [
      "#include <inttypes.h>",
      "uint8_t v; sscanf(\"77\", \"%\" SCNo8, &v); // v == 63"] },
  { id := "id-scno16", token := "SCNo16", category := .identifier,
    description := paragraph [
      "`scanf` format macro to read an unsigned 16-bit integer in octal",
      "(`uint16_t`)."],
    sample := some <| lines [
      "#include <inttypes.h>",
      "uint16_t v; sscanf(\"777\", \"%\" SCNo16, &v); // v == 511"] },
  { id := "id-scno32", token := "SCNo32", category := .identifier,
    description := paragraph [
      "`scanf` format macro to read an unsigned 32-bit integer in octal",
      "(`uint32_t`)."],
    sample := some <| lines [
      "#include <inttypes.h>",
      "uint32_t v; sscanf(\"10\", \"%\" SCNo32, &v); // v == 8"] },
  { id := "id-scno64", token := "SCNo64", category := .identifier,
    description := paragraph [
      "`scanf` format macro to read an unsigned 64-bit integer in octal",
      "(`uint64_t`)."],
    sample := some <| lines [
      "#include <inttypes.h>",
      "uint64_t v; sscanf(\"100\", \"%\" SCNo64, &v); // v == 64"] },
  { id := "id-scnu8", token := "SCNu8", category := .identifier,
    description :=
      "`scanf` format macro to read an unsigned 8-bit integer (`uint8_t`).",
    sample := some <| lines [
      "#include <inttypes.h>",
      "uint8_t v; sscanf(\"200\", \"%\" SCNu8, &v); // v == 200"] },
  { id := "id-scnu16", token := "SCNu16", category := .identifier,
    description := paragraph [
      "`scanf` format macro to read an unsigned 16-bit integer",
      "(`uint16_t`)."],
    sample := some <| lines [
      "#include <inttypes.h>",
      "uint16_t v; sscanf(\"65535\", \"%\" SCNu16, &v); // v == 65535"] },
  { id := "id-scnu32", token := "SCNu32", category := .identifier,
    description := paragraph [
      "`scanf` format macro to read an unsigned 32-bit integer",
      "(`uint32_t`)."],
    sample := some <| lines [
      "#include <inttypes.h>",
      "uint32_t v; sscanf(\"4294967295\", \"%\" SCNu32, &v);"] },
  { id := "id-scnu64", token := "SCNu64", category := .identifier,
    description := paragraph [
      "`scanf` format macro to read an unsigned 64-bit integer",
      "(`uint64_t`)."],
    sample := some <| lines [
      "#include <inttypes.h>",
      "uint64_t v; sscanf(\"18446744073709551615\", \"%\" SCNu64, &v);"] },
  { id := "id-scnx8", token := "SCNx8", category := .identifier,
    description := paragraph [
      "`scanf` format macro to read an unsigned 8-bit integer in hex",
      "(`uint8_t`)."],
    sample := some <| lines [
      "#include <inttypes.h>",
      "uint8_t v; sscanf(\"ff\", \"%\" SCNx8, &v); // v == 255"] },
  { id := "id-scnx16", token := "SCNx16", category := .identifier,
    description := paragraph [
      "`scanf` format macro to read an unsigned 16-bit integer in hex",
      "(`uint16_t`)."],
    sample := some <| lines [
      "#include <inttypes.h>",
      "uint16_t v; sscanf(\"BEEF\", \"%\" SCNx16, &v); // v == 48879"] },
  { id := "id-scnx32", token := "SCNx32", category := .identifier,
    description := paragraph [
      "`scanf` format macro to read an unsigned 32-bit integer in hex",
      "(`uint32_t`)."],
    sample := some <| lines [
      "#include <inttypes.h>",
      "uint32_t v; sscanf(\"12345678\", \"%\" SCNx32, &v); // v == 0x12345678"] },
  { id := "id-scnx64", token := "SCNx64", category := .identifier,
    description := paragraph [
      "`scanf` format macro to read an unsigned 64-bit integer in hex",
      "(`uint64_t`)."],
    sample := some <| lines [
      "#include <inttypes.h>",
      "uint64_t v; sscanf(\"ABCDEF1234567890\", \"%\" SCNx64, &v); // v == 0xABCDEF1234567890"] },
  { id := "id-edom", token := "EDOM", category := .identifier,
    description := paragraph [
      "Mathematics argument out of domain error macro for `errno` (e.g.,",
      "`acos(2)`)."],
    sample := some <| lines [
      "#include <math.h>",
      "#include <errno.h>",
      "errno = 0; acos(2.0); int e = errno; // e may be set to EDOM"] },
  { id := "id-erange", token := "ERANGE", category := .identifier,
    description := paragraph [
      "Range error macro for `errno` (e.g., overflow/underflow such as",
      "`strtod` huge\nvalues)."],
    sample := some <| lines [
      "#include <stdlib.h>",
      "#include <errno.h>",
      "errno = 0; strtod(\"1e5000\", NULL); int e = errno; // e may be ERANGE"] },
  { id := "id-eilseq", token := "EILSEQ", category := .identifier,
    description := paragraph [
      "Illegal byte sequence macro for `errno` (e.g., invalid multibyte",
      "sequence)."],
    sample := some <| lines [
      "#include <stdlib.h>",
      "#include <errno.h>",
      "errno = 0; mbtowc(NULL, \"\\xff\", 1); int e = errno; // e may be EILSEQ"] },
  { id := "id-errno", token := "errno", category := .identifier,
    description := paragraph [
      "Thread-local integer lvalue set by library functions on error to",
      "indicate the\nerror code."],
    sample := some <| lines [
      "#include <stdio.h>",
      "#include <errno.h>",
      "FILE *f = fopen(\"/nope\", \"r\");",
      "if (!f) \x7b int e = errno; /* use e */ \x7d"] },
  { id := "id-char_bit", token := "CHAR_BIT", category := .identifier,
    description :=
      "Number of bits in a byte for type `char` (commonly 8).",
    sample := some <| lines [
      "#include <limits.h>",
      "int n = CHAR_BIT; // e.g., 8"] },
  { id := "id-schar_min", token := "SCHAR_MIN", category := .identifier,
    description :=
      "Minimum value for type `signed char`.",
    sample := some <| lines [
      "#include <limits.h>",
      "int m = SCHAR_MIN; // typically -128"] },
  { id := "id-schar_max", token := "SCHAR_MAX", category := .identifier,
    description :=
      "Maximum value for type `signed char`.",
    sample := some <| lines [
      "#include <limits.h>",
      "int m = SCHAR_MAX; // typically 127"] },
  { id := "id-uchar_max", token := "UCHAR_MAX", category := .identifier,
    description :=
      "Maximum value for type `unsigned char`.",
    sample := some <| lines [
      "#include <limits.h>",
      "int m = UCHAR_MAX; // typically 255"] },
  { id := "id-char_min", token := "CHAR_MIN", category := .identifier,
    description := paragraph [
      "Minimum value for type `char` (either `SCHAR_MIN` or 0 depending",
      "on signedness\nof `char`)."],
    sample := some <| lines [
      "#include <limits.h>",
      "int m = CHAR_MIN; // implementation-defined"] },
  { id := "id-char_max", token := "CHAR_MAX", category := .identifier,
    description :=
      "Maximum value for type `char` (either `SCHAR_MAX` or `UCHAR_MAX`).",
    sample := some <| lines [
      "#include <limits.h>",
      "int m = CHAR_MAX; // implementation-defined"] },
  { id := "id-mb_len_max", token := "MB_LEN_MAX", category := .identifier,
    description := paragraph [
      "Maximum number of bytes in a multibyte character for the current",
      "locale."],
    sample := some <| lines [
      "#include <limits.h>",
      "int n = MB_LEN_MAX;"] },
  { id := "id-shrt_min", token := "SHRT_MIN", category := .identifier,
    description :=
      "Minimum value for type `short int`.",
    sample := some <| lines [
      "#include <limits.h>",
      "int m = SHRT_MIN; // typically -32768"] },
  { id := "id-shrt_max", token := "SHRT_MAX", category := .identifier,
    description :=
      "Maximum value for type `short int`.",
    sample := some <| lines [
      "#include <limits.h>",
      "int m = SHRT_MAX; // typically 32767"] },
  { id := "id-ushrt_max", token := "USHRT_MAX", category := .identifier,
    description :=
      "Maximum value for type `unsigned short int`.",
    sample := some <| lines [
      "#include <limits.h>",
      "int m = USHRT_MAX; // typically 65535"] },
  { id := "id-int_min", token := "INT_MIN", category := .identifier,
    description :=
      "Minimum value for type `int`.",
    sample := some <| lines [
      "#include <limits.h>",
      "int m = INT_MIN; // e.g., -2147483648 on 32-bit int"] },
  { id := "id-int_max", token := "INT_MAX", category := .identifier,
    description :=
      "Maximum value for type `int`.",
    sample := some <| lines [
      "#include <limits.h>",
      "int m = INT_MAX; // e.g., 2147483647 on 32-bit int"] },
  { id := "id-uint_max", token := "UINT_MAX", category := .identifier,
    description :=
      "Maximum value for type `unsigned int`.",
    sample := some <| lines [
      "#include <limits.h>",
      "unsigned int m = UINT_MAX; // e.g., 4294967295u on 32-bit"] },
  { id := "id-long_min", token := "LONG_MIN", category := .identifier,
    description :=
      "Minimum value for type `long`.",
    sample := some <| lines [
      "#include <limits.h>",
      "long m = LONG_MIN; // platform-dependent (e.g., -9223372036854775808 on LP64)"] },
  { id := "id-long_max", token := "LONG_MAX", category := .identifier,
    description :=
      "Maximum value for type `long`.",
    sample := some <| lines [
      "#include <limits.h>",
      "long m = LONG_MAX; // platform-dependent (e.g., 9223372036854775807 on LP64)"] },
  { id := "id-ulong_max", token := "ULONG_MAX", category := .identifier,
    description :=
      "Maximum value for type `unsigned long`.",
    sample := some <| lines [
      "#include <limits.h>",
      "unsigned long m = ULONG_MAX; // e.g., 18446744073709551615ul on LP64"] },
  { id := "id-llong_min", token := "LLONG_MIN", category := .identifier,
    description :=
      "Minimum value for type `long long`.",
    sample := some <| lines [
      "#include <limits.h>",
      "long long m = LLONG_MIN; // -9223372036854775808"] },
  { id := "id-llong_max", token := "LLONG_MAX", category := .identifier,
    description :=
      "Maximum value for type `long long`.",
    sample := some <| lines [
      "#include <limits.h>",
      "long long m = LLONG_MAX; // 9223372036854775807"] },
  { id := "id-ullong_max", token := "ULLONG_MAX", category := .identifier,
    description :=
      "Maximum value for type `unsigned long long`.",
    sample := some <| lines [
      "#include <limits.h>",
      "unsigned long long m = ULLONG_MAX; // 18446744073709551615ull"] },
  { id := "id-flt_radix", token := "FLT_RADIX", category := .identifier,
    description := paragraph [
      "Radix (base) of the exponent representation for all floating types",
      "(commonly 2)."],
    sample := some <| lines [
      "#include <float.h>",
      "int r = FLT_RADIX; // typically 2"] },
  { id := "id-flt_true_min", token := "FLT_TRUE_MIN", category := .identifier,
    description := paragraph [
      "Minimum positive normalized or subnormal value of type `float`",
      "(IEEE-754 true\nminimum subnormal)."],
    sample := some <| lines [
      "#include <float.h>",
      "float x = FLT_TRUE_MIN; // smallest positive float"] },
  { id := "id-flt_min", token := "FLT_MIN", category := .identifier,
    description :=
      "Minimum positive normalized value of type `float`.",
    sample := some <| lines [
      "#include <float.h>",
      "float x = FLT_MIN; // ~1.175494e-38 (IEEE-754)"] },
  { id := "id-flt_max", token := "FLT_MAX", category := .identifier,
    description :=
      "Maximum finite value of type `float`.",
    sample := some <| lines [
      "#include <float.h>",
      "float x = FLT_MAX; // ~3.402823e+38"] },
  { id := "id-flt_epsilon", token := "FLT_EPSILON", category := .identifier,
    description := paragraph [
      "Difference between 1 and the least `float` greater than 1 (machine",
      "epsilon for\nfloat)."],
    sample := some <| lines [
      "#include <float.h>",
      "float e = FLT_EPSILON; // ~1.192093e-07"] },
  { id := "id-dbl_true_min", token := "DBL_TRUE_MIN", category := .identifier,
    description :=
      "Minimum positive subnormal `double` value (IEEE-754 true minimum).",
    sample := some <| lines [
      "#include <float.h>",
      "double x = DBL_TRUE_MIN; // ~4.940656e-324"] },
  { id := "id-dbl_min", token := "DBL_MIN", category := .identifier,
    description :=
      "Minimum positive normalized `double` value.",
    sample := some <| lines [
      "#include <float.h>",
      "double x = DBL_MIN; // ~2.225074e-308"] },
  { id := "id-dbl_max", token := "DBL_MAX", category := .identifier,
    description :=
      "Maximum finite `double` value.",
    sample := some <| lines [
      "#include <float.h>",
      "double x = DBL_MAX; // ~1.797693e+308"] },
  { id := "id-dbl_epsilon", token := "DBL_EPSILON", category := .identifier,
    description := paragraph [
      "Difference between 1 and the least `double` greater than 1",
      "(machine epsilon for\ndouble)."],
    sample := some <| lines [
      "#include <float.h>",
      "double e = DBL_EPSILON; // ~2.220446e-16"] },
  { id := "id-ldbl_true_min", token := "LDBL_TRUE_MIN",
    category := .identifier,
    description := paragraph [
      "Minimum positive subnormal `long double` value",
      "(platform-dependent)."],
    sample := some <| lines [
      "#include <float.h>",
      "long double x = LDBL_TRUE_MIN;"] },
  { id := "id-ldbl_min", token := "LDBL_MIN", category := .identifier,
    description :=
      "Minimum positive normalized `long double` value.",
    sample := some <| lines [
      "#include <float.h>",
      "long double x = LDBL_MIN;"] },
  { id := "id-ldbl_max", token := "LDBL_MAX", category := .identifier,
    description :=
      "Maximum finite `long double` value.",
    sample := some <| lines [
      "#include <float.h>",
      "long double x = LDBL_MAX;"] },
  { id := "id-ldbl_epsilon", token := "LDBL_EPSILON", category := .identifier,
    description := paragraph [
      "Difference between 1 and the least `long double` greater than 1",
      "(machine\nepsilon for long double)."],
    sample := some <| lines [
      "#include <float.h>",
      "long double e = LDBL_EPSILON;"] }]

end CLexicon.Dictionary
