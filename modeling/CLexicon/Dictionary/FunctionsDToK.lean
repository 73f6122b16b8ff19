import CLexicon.Dictionary.Layout

/-!
# Library functions, D to K

The functions and types of the standard library whose names start with `d` to
`k`.
-/

namespace CLexicon.Dictionary

/-- The functions and types of the standard library whose names start with `d` to
`k`. -/
def functionsDToK : List RawItem := [
  { id := "id-difftime", token := "difftime", category := .identifier,
    description := paragraph [
      "Returns the difference in seconds between two `time_t` values as",
      "`double`."],
    sample := some <| lines [
      "#include <time.h>",
      "time_t start = 1000, end = 1005;",
      "double dt = difftime(end, start); // 5.0"] },
  { id := "id-div", token := "div", category := .identifier,
    description :=
      "Integer division producing quotient and remainder for `int`.",
    sample := some <| lines [
      "#include <stdlib.h>",
      "div_t r = div(10, 3);",
      "// r.quot == 3, r.rem == 1"] },
  { id := "id-div_t", token := "div_t", category := .identifier,
    description :=
      "Result type returned by `div`, with members `int quot; int rem;`.",
    sample := some <| lines [
      "#include <stdlib.h>",
      "div_t r = div(7, -3);",
      "// r.quot == -2, r.rem == 1"] },
  { id := "id-double_t", token := "double_t", category := .identifier,
    description := paragraph [
      "Floating type from `<math.h>` used for efficient double-precision",
      "evaluation (typically an alias of `double`)."],
    sample := some <| lines [
      "#include <math.h>",
      "double_t y = 0.0; // usually the same representation as double"] },
  { id := "id-erf", token := "erf", category := .identifier,
    description :=
      "Error function of a real `double` argument.",
    sample := some <| lines [
      "#include <math.h>",
      "double v = erf(1.0); // ≈ 0.842701"] },
  { id := "id-erfc", token := "erfc", category := .identifier,
    description :=
      "Complementary error function: `1 - erf(x)` for `double`.",
    sample := some <| lines [
      "#include <math.h>",
      "double v = erfc(1.0); // ≈ 0.157299"] },
  { id := "id-erfcf", token := "erfcf", category := .identifier,
    description :=
      "`float` version of `erfc`.",
    sample := some <| lines [
      "#include <math.h>",
      "float v = erfcf(1.0f); // ≈ 0.157299f"] },
  { id := "id-erfcl", token := "erfcl", category := .identifier,
    description :=
      "`long double` version of `erfc`.",
    sample := some <| lines [
      "#include <math.h>",
      "long double v = erfcl(1.0L); // ≈ 0.157299L"] },
  { id := "id-erff", token := "erff", category := .identifier,
    description :=
      "`float` error function.",
    sample := some <| lines [
      "#include <math.h>",
      "float v = erff(1.0f); // ≈ 0.842701f"] },
  { id := "id-erfl", token := "erfl", category := .identifier,
    description :=
      "`long double` error function.",
    sample := some <| lines [
      "#include <math.h>",
      "long double v = erfl(1.0L); // ≈ 0.842701L"] },
  { id := "id-errno", token := "errno", category := .identifier,
    description :=
      "<a id=\"id-exit\"></a>" },
  { id := "id-exp", token := "exp", category := .identifier,
    description :=
      "Natural exponential e^x for `double`.",
    sample := some <| lines [
      "#include <math.h>",
      "double v = exp(2.0); // ≈ 7.389056"] },
  { id := "id-exp2", token := "exp2", category := .identifier,
    description :=
      "Base-2 exponential 2^x for `double`.",
    sample := some <| lines [
      "#include <math.h>",
      "double v = exp2(3.0); // 8.0"] },
  { id := "id-exp2f", token := "exp2f", category := .identifier,
    description :=
      "`float` version of `exp2`.",
    sample := some <| lines [
      "#include <math.h>",
      "float v = exp2f(3.0f); // 8.0f"] },
  { id := "id-exp2l", token := "exp2l", category := .identifier,
    description :=
      "`long double` version of `exp2`.",
    sample := some <| lines [
      "#include <math.h>",
      "long double v = exp2l(3.0L); // 8.0L"] },
  { id := "id-expf", token := "expf", category := .identifier,
    description :=
      "`float` exponential e^x.",
    sample := some <| lines [
      "#include <math.h>",
      "float v = expf(2.0f); // ≈ 7.389056f"] },
  { id := "id-expl", token := "expl", category := .identifier,
    description :=
      "`long double` exponential e^x.",
    sample := some <| lines [
      "#include <math.h>",
      "long double v = expl(2.0L); // ≈ 7.389056L"] },
  { id := "id-expm1", token := "expm1", category := .identifier,
    description :=
      "Computes e^x - 1 with good precision for small x (`double`).",
    sample := some <| lines [
      "#include <math.h>",
      "double v = expm1(0.1); // ≈ 0.105171"] },
  { id := "id-expm1f", token := "expm1f", category := .identifier,
    description :=
      "`float` version of `expm1`.",
    sample := some <| lines [
      "#include <math.h>",
      "float v = expm1f(0.1f); // ≈ 0.105171f"] },
  { id := "id-expm1l", token := "expm1l", category := .identifier,
    description :=
      "`long double` version of `expm1`.",
    sample := some <| lines [
      "#include <math.h>",
      "long double v = expm1l(0.1L); // ≈ 0.105171L"] },
  { id := "id-fabs", token := "fabs", category := .identifier,
    description :=
      "Absolute value of a `double`.",
    sample := some <| lines [
      "#include <math.h>",
      "double v = fabs(-5.5); // 5.5"] },
  { id := "id-fabsf", token := "fabsf", category := .identifier,
    description :=
      "`float` absolute value.",
    sample := some <| lines [
      "#include <math.h>",
      "float v = fabsf(-5.5f); // 5.5f"] },
  { id := "id-fabsl", token := "fabsl", category := .identifier,
    description :=
      "`long double` absolute value.",
    sample := some <| lines [
      "#include <math.h>",
      "long double v = fabsl(-5.5L); // 5.5L"] },
  { id := "id-fclose", token := "fclose", category := .identifier,
    description := paragraph [
      "Closes a stream; flushes buffers. Returns 0 on success, EOF on",
      "error."],
    sample := some <| lines [
      "#include <stdio.h>",
      "FILE *fp = fopen(\"x.txt\", \"w\");",
      "int rc = fclose(fp); // 0 on success"] },
  { id := "id-feclearexcept", token := "feclearexcept",
    category := .identifier,
    description := paragraph [
      "Clears the specified floating‑point exception flags given by the",
      "bitmask (e.g., `FE_DIVBYZERO`, `FE_INVALID`). Returns 0 on",
      "success, nonzero on failure."] },
  { id := "id-fegetenv", token := "fegetenv", category := .identifier,
    description := paragraph [
      "Stores the current floating‑point environment (rounding mode and",
      "exception flags) into a `fenv_t` object. Returns 0 on success."] },
  { id := "id-fegetexceptflag", token := "fegetexceptflag",
    category := .identifier,
    description := paragraph [
      "Saves the state of the specified floating‑point exception flags",
      "into an `fexcept_t` object for later restoration. Returns 0 on",
      "success."] },
  { id := "id-fegetround", token := "fegetround", category := .identifier,
    description := paragraph [
      "Gets the current rounding direction, returning one of the macros",
      "such as `FE_TONEAREST`, `FE_DOWNWARD`, `FE_UPWARD`, or",
      "`FE_TOWARDZERO`."] },
  { id := "id-feholdexcept", token := "feholdexcept", category := .identifier,
    description := paragraph [
      "Saves the current floating‑point environment to a `fenv_t` object,",
      "then clears all exception flags and sets a non‑stop mode. Returns",
      "0 on success."] },
  { id := "id-fenv_t", token := "fenv_t", category := .identifier,
    description := paragraph [
      "Type that represents the entire floating‑point environment",
      "(rounding mode and exception flags) used by `<fenv.h>` functions."] },
  { id := "id-feraiseexcept", token := "feraiseexcept",
    category := .identifier,
    description := paragraph [
      "Raises (sets) the specified floating‑point exception flags.",
      "Returns 0 if all requested exceptions were successfully raised."] },
  { id := "id-fetestexcept", token := "fetestexcept", category := .identifier,
    description := paragraph [
      "Tests which of the specified floating‑point exceptions are",
      "currently set and returns a bitwise OR of those flags."] },
  { id := "id-feof", token := "feof", category := .identifier,
    description := paragraph [
      "Tests the end‑of‑file indicator for a stream. Returns nonzero if",
      "EOF has been reached; otherwise returns 0."] },
  { id := "id-feraiseexcept", token := "feraiseexcept",
    category := .identifier,
    description :=
      "<a id=\"id-ferror\"></a>" },
  { id := "id-fesetenv", token := "fesetenv", category := .identifier,
    description := paragraph [
      "Installs the floating‑point environment from a `fenv_t` object,",
      "replacing the current environment. Returns 0 on success."] },
  { id := "id-fesetexceptflag", token := "fesetexceptflag",
    category := .identifier,
    description := paragraph [
      "Sets the state of the specified floating‑point exception flags",
      "from an `fexcept_t` object without raising exceptions. Returns 0",
      "on success."] },
  { id := "id-fesetround", token := "fesetround", category := .identifier,
    description := paragraph [
      "Sets the current rounding direction to the given macro (e.g.,",
      "`FE_TONEAREST`, `FE_UPWARD`). Returns 0 on success, nonzero on",
      "failure."] },
  { id := "id-feupdateenv", token := "feupdateenv", category := .identifier,
    description := paragraph [
      "Restores the floating‑point environment from a `fenv_t` object and",
      "then raises any exceptions that were set prior to the call.",
      "Returns 0 on success."] },
  { id := "id-fexcept_t", token := "fexcept_t", category := .identifier,
    description := paragraph [
      "Type that holds the state of the floating‑point exception flags,",
      "used with `fegetexceptflag`/`fesetexceptflag`."] },
  { id := "id-fflush", token := "fflush", category := .identifier,
    description := paragraph [
      "Flushes any buffered output for a stream to its underlying file.",
      "If `stream` is `NULL`, all open output streams are flushed.",
      "Returns 0 on success, `EOF` on error."] },
  { id := "id-fgetc", token := "fgetc", category := .identifier,
    description := paragraph [
      "Reads the next byte from a stream and returns it as an unsigned",
      "char cast to int, or `EOF` on end/error."],
    sample := some <| lines [
      "#include <stdio.h>",
      "// assume file has \"Hello, World\\n\"",
      "FILE *fp = fopen(\"example.txt\", \"r\");",
      "int ch = fgetc(fp);",
      "// ch == 'H'",
      "fclose(fp);"] },
  { id := "id-fgetpos", token := "fgetpos", category := .identifier,
    description := paragraph [
      "Stores the current file position in a `fpos_t` object for later",
      "restoration with `fsetpos`. Returns 0 on success."],
    sample := some <| lines [
      "#include <stdio.h>",
      "FILE *fp = fopen(\"example.txt\", \"r\");",
      "fpos_t pos; int rc = fgetpos(fp, &pos); // rc == 0 on success",
      "fclose(fp);"] },
  { id := "id-fgets", token := "fgets", category := .identifier,
    description := paragraph [
      "Reads at most `n-1` chars from stream into buffer, stopping at",
      "newline or EOF; writes a terminating `\\0`. Returns `buf` on",
      "success or `NULL`."],
    sample := some <| lines [
      "#include <stdio.h>",
      "// example.txt: \"Hello, World!\\n\"",
      "char buf[64]; FILE *fp = fopen(\"example.txt\", \"r\");",
      "char *p = fgets(buf, sizeof buf, fp);",
      "// buf == \"Hello, World!\\n\"",
      "fclose(fp);"] },
  { id := "id-fiprintf", token := "fiprintf", category := .identifier,
    description :=
      "<a id=\"id-floor\"></a>" },
  { id := "id-floorf", token := "floorf", category := .identifier,
    description :=
      "`float` version of `floor`.",
    sample := some <| lines [
      "#include <math.h>",
      "float r = floorf(2.9f); // r == 2.0f"] },
  { id := "id-floorl", token := "floorl", category := .identifier,
    description :=
      "`long double` version of `floor`.",
    sample := some <| lines [
      "#include <math.h>",
      "long double r = floorl(3.0L); // r == 3.0L"] },
  { id := "id-fma", token := "fma", category := .identifier,
    description :=
      "Fused multiply-add: computes `x*y+z` with a single rounding.",
    sample := some <| lines [
      "#include <math.h>",
      "double r = fma(2.0, 3.0, 4.0); // r == 10.0"] },
  { id := "id-fmaf", token := "fmaf", category := .identifier,
    description :=
      "`float` version of `fma`.",
    sample := some <| lines [
      "#include <math.h>",
      "float r = fmaf(1.5f, 2.0f, 1.0f); // r == 4.0f"] },
  { id := "id-fmal", token := "fmal", category := .identifier,
    description :=
      "`long double` version of `fma`.",
    sample := some <| lines [
      "#include <math.h>",
      "long double r = fmal(2.0L, 2.5L, 0.5L); // r == 5.5L"] },
  { id := "id-fmax", token := "fmax", category := .identifier,
    description := paragraph [
      "Returns the larger of two `double` values; if one operand is NaN,",
      "returns the other."],
    sample := some <| lines [
      "#include <math.h>",
      "double r = fmax(2.0, 3.5); // r == 3.5"] },
  { id := "id-fmaxf", token := "fmaxf", category := .identifier,
    description :=
      "`float` version of `fmax`.",
    sample := some <| lines [
      "#include <math.h>",
      "float r = fmaxf(-1.0f, -2.0f); // r == -1.0f"] },
  { id := "id-fmaxl", token := "fmaxl", category := .identifier,
    description :=
      "`long double` version of `fmax`.",
    sample := some <| lines [
      "#include <math.h>",
      "long double r = fmaxl(1.0L, 1.0L); // r == 1.0L"] },
  { id := "id-fmin", token := "fmin", category := .identifier,
    description := paragraph [
      "Returns the smaller of two `double` values; if one operand is NaN,",
      "returns the other."],
    sample := some <| lines [
      "#include <math.h>",
      "double r = fmin(2.0, 3.5); // r == 2.0"] },
  { id := "id-fminf", token := "fminf", category := .identifier,
    description :=
      "`float` version of `fmin`.",
    sample := some <| lines [
      "#include <math.h>",
      "float r = fminf(-1.0f, -2.0f); // r == -2.0f"] },
  { id := "id-fminl", token := "fminl", category := .identifier,
    description :=
      "`long double` version of `fmin`.",
    sample := some <| lines [
      "#include <math.h>",
      "long double r = fminl(1.0L, 1.5L); // r == 1.0L"] },
  { id := "id-fmod", token := "fmod", category := .identifier,
    description := paragraph [
      "Floating remainder of `x/y` with the sign of `x`: `x -",
      "trunc(x/y)*y`."],
    sample := some <| lines [
      "#include <math.h>",
      "double r = fmod(7.0, 3.0); // r == 1.0"] },
  { id := "id-fmodf", token := "fmodf", category := .identifier,
    description :=
      "`float` version of `fmod`.",
    sample := some <| lines [
      "#include <math.h>",
      "float r = fmodf(7.0f, 2.5f); // r == 2.0f"] },
  { id := "id-fmodl", token := "fmodl", category := .identifier,
    description :=
      "`long double` version of `fmod`.",
    sample := some <| lines [
      "#include <math.h>",
      "long double r = fmodl(5.0L, 2.0L); // r == 1.0L"] },
  { id := "id-fopen", token := "fopen", category := .identifier,
    description := paragraph [
      "Opens a file and associates a stream. Returns `FILE*` or `NULL` on",
      "failure. Mode controls read/write/append, text vs binary."],
    sample := some <| lines [
      "#include <stdio.h>",
      "FILE *fp = fopen(\"data.bin\", \"rb\"); // open for reading binary",
      "// fp != NULL on success",
      "if (fp) fclose(fp);"] },
  { id := "id-fprintf", token := "fprintf", category := .identifier,
    description := paragraph [
      "Formatted print to a stream; returns number of characters written",
      "or a negative value on error."],
    sample := some <| lines [
      "#include <stdio.h>",
      "FILE *fp = fopen(\"out.txt\", \"w\");",
      "int n = fprintf(fp, \"Name: %s, Age: %d\\n\", \"Alice\", 30);",
      "// n >= 0, file contains: \"Name: Alice, Age: 30\\n\"",
      "fclose(fp);"] },
  { id := "id-fputc", token := "fputc", category := .identifier,
    description := paragraph [
      "Writes a byte (unsigned char) to a stream. Returns the written",
      "byte or `EOF` on error."],
    sample := some <| lines [
      "#include <stdio.h>",
      "FILE *fp = fopen(\"out.txt\", \"w\");",
      "int rc = fputc('A', fp); // rc == 'A'",
      "fclose(fp);"] },
  { id := "id-fputs", token := "fputs", category := .identifier,
    description := paragraph [
      "Writes a string (excluding the terminating `\\0`) to a stream.",
      "Returns a nonnegative value on success or `EOF` on error."],
    sample := some <| lines [
      "#include <stdio.h>",
      "FILE *fp = fopen(\"out.txt\", \"w\");",
      "int rc = fputs(\"Hello, World!\\n\", fp); // rc >= 0; file contains the line",
      "fclose(fp);"] },
  { id := "id-fread", token := "fread", category := .identifier,
    description := paragraph [
      "Reads up to `count` items of size `size` into `ptr`. Returns the",
      "number of items read."],
    sample := some <| lines [
      "#include <stdio.h>",
      "char buf[5]; FILE *fp = fopen(\"example.txt\", \"r\");",
      "size_t n = fread(buf, 1, 5, fp); // n == 5 if 5 bytes available",
      "fclose(fp);"] },
  { id := "id-free", token := "free", category := .identifier,
    description :=
      "<a id=\"id-freopen\"></a>" },
  { id := "id-frexp", token := "frexp", category := .identifier,
    description := paragraph [
      "Decomposes a `double` into mantissa and exponent such that `x = m",
      "* 2^exp`, with `m` in [0.5, 1.0)."],
    sample := some <| lines [
      "#include <math.h>",
      "int e; double m = frexp(8.0, &e); // m == 0.5, e == 4 (0.5*2^4 == 8)"] },
  { id := "id-frexpf", token := "frexpf", category := .identifier,
    description :=
      "`float` version of `frexp`.",
    sample := some <| lines [
      "#include <math.h>",
      "int e; float m = frexpf(3.0f, &e); // m == 0.75f, e == 2 (0.75*2^2 == 3)"] },
  { id := "id-frexpl", token := "frexpl", category := .identifier,
    description :=
      "`long double` version of `frexp`.",
    sample := some <| lines [
      "#include <math.h>",
      "int e; long double m = frexpl(1.0L, &e); // m == 0.5L, e == 1"] },
  { id := "id-fscanf", token := "fscanf", category := .identifier,
    description := paragraph [
      "Scans formatted input from a stream; returns number of input items",
      "assigned, or `EOF` on error/EOF before any assignment."],
    sample := some <| lines [
      "#include <stdio.h>",
      "char name[32]; int age; FILE *fp = fopen(\"in.txt\", \"r\");",
      "int n = fscanf(fp, \"Name: %31s, Age: %d\", name, &age);",
      "// if file has \"Name: Bob, Age: 25\", then n == 2, name==\"Bob\", age==25",
      "fclose(fp);"] },
  { id := "id-fseek", token := "fseek", category := .identifier,
    description := paragraph [
      "Sets the file position indicator relative to `SEEK_SET`,",
      "`SEEK_CUR`, or `SEEK_END`. Returns 0 on success."],
    sample := some <| lines [
      "#include <stdio.h>",
      "FILE *fp = fopen(\"example.txt\", \"r\");",
      "fseek(fp, 5, SEEK_SET);",
      "int ch = fgetc(fp);",
      "// If file starts \"Hello, World\", ch == ','",
      "fclose(fp);"] },
  { id := "id-fsetpos", token := "fsetpos", category := .identifier,
    description := paragraph [
      "Restores a file position saved by `fgetpos`. Returns 0 on success;",
      "clears end-of-file indicator."],
    sample := some <| lines [
      "#include <stdio.h>",
      "FILE *fp = fopen(\"example.txt\", \"r\");",
      "fpos_t pos; fgetpos(fp, &pos);",
      "int c1 = fgetc(fp); // read one char",
      "fsetpos(fp, &pos);",
      "int c2 = fgetc(fp); // c2 == c1",
      "fclose(fp);"] },
  { id := "id-ftell", token := "ftell", category := .identifier,
    description :=
      "Returns the current file position as a long, or -1L on error.",
    sample := some <| lines [
      "#include <stdio.h>",
      "FILE *fp = fopen(\"example.txt\", \"r\");",
      "fgetc(fp);",
      "long pos = ftell(fp); // 1",
      "fclose(fp);"] },
  { id := "id-fwide", token := "fwide", category := .identifier,
    description := paragraph [
      "Determines or sets the orientation of a stream: returns >0 for",
      "wide‑oriented, <0 for byte‑oriented, 0 if undecided. If `mode>0`,",
      "attempts to make it wide; if `mode<0`, byte."],
    sample := some <| lines [
      "#include <wchar.h>",
      "int o = fwide(stdout, 0); // query orientation; commonly 0 or <0"] },
  { id := "id-fwprintf", token := "fwprintf", category := .identifier,
    description := paragraph [
      "Wide‑character equivalent of `fprintf`; writes formatted wide text",
      "to a wide‑oriented stream."],
    sample := some <| lines [
      "#include <wchar.h>",
      "int n = fwprintf(stdout, L\"Pi ≈ %.2f\\n\", 3.14159); // prints wide text"] },
  { id := "id-fwrite", token := "fwrite", category := .identifier,
    description := paragraph [
      "Writes up to `count` items of size `size` from `ptr` to stream.",
      "Returns the number of items written."],
    sample := some <| lines [
      "#include <stdio.h>",
      "const char *s = \"ABC\";",
      "FILE *fp = fopen(\"out.bin\", \"wb\");",
      "size_t n = fwrite(s, 1, 3, fp); // n == 3, file gets ABC",
      "fclose(fp);"] },
  { id := "id-fwscanf", token := "fwscanf", category := .identifier,
    description := paragraph [
      "Wide‑character equivalent of `fscanf`; reads formatted wide text",
      "from a wide‑oriented stream."],
    sample := some <| lines [
      "#include <wchar.h>",
      "// fwscanf(fp, L\"%ls\", buf); // reads a wide string"] },
  { id := "id-getc", token := "getc", category := .identifier,
    description := paragraph [
      "Reads the next byte from a stream (often a macro). Returns the",
      "byte as unsigned char cast to int, or `EOF`."],
    sample := some <| lines [
      "#include <stdio.h>",
      "FILE *fp = fopen(\"example.txt\", \"r\");",
      "int ch = getc(fp); // e.g., 'H'",
      "fclose(fp);"] },
  { id := "id-getchar", token := "getchar", category := .identifier,
    description := paragraph [
      "Reads the next byte from `stdin`. Returns the byte as unsigned",
      "char cast to int, or `EOF`."],
    sample := some <| lines [
      "#include <stdio.h>",
      "// getchar() waits for input"] },
  { id := "id-getenv", token := "getenv", category := .identifier,
    description := paragraph [
      "Returns the value of an environment variable as a C string, or",
      "`NULL` if not set. The pointer may be invalidated by subsequent",
      "calls that modify the environment."],
    sample := some <| lines [
      "#include <stdlib.h>",
      "const char *p = getenv(\"HOME\"); // e.g., \"/Users/alice\" or NULL"] },
  { id := "id-gets", token := "gets", category := .identifier,
    description := paragraph [
      "Unsafe input function removed in C11; do not use. Use `fgets`",
      "instead."] },
  { id := "id-gmtime", token := "gmtime", category := .identifier,
    description := paragraph [
      "Converts `time_t` to broken‑down UTC time in a static `struct tm`.",
      "Not thread-safe; use `gmtime_r` where available."],
    sample := some <| lines [
      "#include <time.h>",
      "time_t t = 0; struct tm *tm = gmtime(&t); // tm->tm_year == 70 (1970)"] },
  { id := "id-hypot", token := "hypot", category := .identifier,
    description :=
      "Computes `sqrt(x*x + y*y)` without undue overflow/underflow.",
    sample := some <| lines [
      "#include <math.h>",
      "double r = hypot(3.0, 4.0); // r == 5.0"] },
  { id := "id-hypotf", token := "hypotf", category := .identifier,
    description :=
      "`float` version of `hypot`.",
    sample := some <| lines [
      "#include <math.h>",
      "float r = hypotf(3.0f, 4.0f); // r == 5.0f"] },
  { id := "id-hypotl", token := "hypotl", category := .identifier,
    description :=
      "`long double` version of `hypot`.",
    sample := some <| lines [
      "#include <math.h>",
      "long double r = hypotl(3.0L, 4.0L); // r == 5.0L"] },
  { id := "id-ilogb", token := "ilogb", category := .identifier,
    description := paragraph [
      "Extracts the unbiased exponent of a floating value as an `int` (FP",
      "exponent function)."],
    sample := some <| lines [
      "#include <math.h>",
      "int e = ilogb(8.0); // e == 3 (since 8 == 2^3)"] },
  { id := "id-ilogbf", token := "ilogbf", category := .identifier,
    description :=
      "`float` version of `ilogb`.",
    sample := some <| lines [
      "#include <math.h>",
      "int e = ilogbf(0.5f); // e == -1 (0.5 == 2^-1)"] },
  { id := "id-ilogbl", token := "ilogbl", category := .identifier,
    description :=
      "`long double` version of `ilogb`.",
    sample := some <| lines [
      "#include <math.h>",
      "int e = ilogbl(1.0L); // e == 0"] },
  { id := "id-imaxabs", token := "imaxabs", category := .identifier,
    description :=
      "Returns absolute value of a `intmax_t` integer.",
    sample := some <| lines [
      "#include <inttypes.h>",
      "intmax_t r = imaxabs((intmax_t)-5); // r == 5"] },
  { id := "id-imaxdiv", token := "imaxdiv", category := .identifier,
    description := paragraph [
      "Divides two `intmax_t` values, returning quotient and remainder in",
      "`imaxdiv_t`."],
    sample := some <| lines [
      "#include <inttypes.h>",
      "imaxdiv_t d = imaxdiv(10, 3); // d.quot == 3, d.rem == 1"] },
  { id := "id-isalnum", token := "isalnum", category := .identifier,
    description := paragraph [
      "Returns nonzero if the character is alphanumeric (letter or",
      "digit). Argument must be `EOF` or `unsigned char` value."],
    sample := some <| lines [
      "#include <ctype.h>",
      "#include <stdio.h>",
      "int r = isalnum('A'); // r != 0"] },
  { id := "id-isalpha", token := "isalpha", category := .identifier,
    description := paragraph [
      "Returns nonzero if the character is an alphabetic letter. Argument",
      "must be `EOF` or `unsigned char` value."],
    sample := some <| lines [
      "#include <ctype.h>",
      "int r = isalpha('1'); // r == 0"] },
  { id := "id-isblank", token := "isblank", category := .identifier,
    description := paragraph [
      "Returns nonzero if the character is a blank (space or horizontal",
      "tab)."],
    sample := some <| lines [
      "#include <ctype.h>",
      "int r = isblank('\\t'); // r != 0"] },
  { id := "id-iscntrl", token := "iscntrl", category := .identifier,
    description :=
      "Returns nonzero if the character is a control character.",
    sample := some <| lines [
      "#include <ctype.h>",
      "int r = iscntrl('\\n'); // r != 0"] },
  { id := "id-isdigit", token := "isdigit", category := .identifier,
    description :=
      "Returns nonzero if the character is a decimal digit ('0'..'9').",
    sample := some <| lines [
      "#include <ctype.h>",
      "int r = isdigit('5'); // r != 0"] },
  { id := "id-isfinite", token := "isfinite", category := .identifier,
    description :=
      "<a id=\"id-isgraph\"></a>" },
  { id := "id-isgreater", token := "isgreater", category := .identifier,
    description :=
      "<a id=\"id-isgreaterequal\"></a>" },
  { id := "id-isinf", token := "isinf", category := .identifier,
    description :=
      "<a id=\"id-isless\"></a>" },
  { id := "id-islessequal", token := "islessequal", category := .identifier,
    description :=
      "<a id=\"id-islessgreater\"></a>" },
  { id := "id-islower", token := "islower", category := .identifier,
    description :=
      "Returns nonzero if the character is a lowercase letter.",
    sample := some <| lines [
      "#include <ctype.h>",
      "int r = islower('g'); // r != 0"] },
  { id := "id-isnan", token := "isnan", category := .identifier,
    description :=
      "<a id=\"id-isnormal\"></a>" },
  { id := "id-isprint", token := "isprint", category := .identifier,
    description :=
      "Returns nonzero if the character is printable (including space).",
    sample := some <| lines [
      "#include <ctype.h>",
      "int r = isprint(' '); // r != 0"] },
  { id := "id-ispunct", token := "ispunct", category := .identifier,
    description :=
      "Returns nonzero if the character is a punctuation character.",
    sample := some <| lines [
      "#include <ctype.h>",
      "int r = ispunct('!'); // r != 0"] },
  { id := "id-isspace", token := "isspace", category := .identifier,
    description := paragraph [
      "Returns nonzero if the character is whitespace (space, tab,",
      "newline, vertical tab, form feed, carriage return)."],
    sample := some <| lines [
      "#include <ctype.h>",
      "int r = isspace('\\n'); // r != 0"] },
  { id := "id-isunordered", token := "isunordered", category := .identifier,
    description :=
      "<a id=\"id-isupper\"></a>" },
  { id := "id-iswalnum", token := "iswalnum", category := .identifier,
    description := paragraph [
      "Returns nonzero if the wide character is alphanumeric (letter or",
      "decimal digit)\nin the current locale."],
    sample := some <| lines [
      "#include <wctype.h>",
      "int a = iswalnum(L'A'); // a != 0",
      "int b = iswalnum(L'7'); // b != 0",
      "int c = iswalnum(L'#'); // c == 0"] },
  { id := "id-iswalpha", token := "iswalpha", category := .identifier,
    description := paragraph [
      "Returns nonzero if the wide character is a letter in the current",
      "locale."],
    sample := some <| lines [
      "#include <wctype.h>",
      "int r1 = iswalpha(L'Z'); // r1 != 0",
      "int r2 = iswalpha(L'9'); // r2 == 0"] },
  { id := "id-iswblank", token := "iswblank", category := .identifier,
    description := paragraph [
      "Returns nonzero if the wide character is a blank character (space",
      "or horizontal\ntab). Other whitespace like newline is not",
      "considered blank."],
    sample := some <| lines [
      "#include <wctype.h>",
      "int s = iswblank(L' ');  // s != 0",
      "int t = iswblank(L'\\t'); // t != 0",
      "int n = iswblank(L'\\n'); // n == 0"] },
  { id := "id-iswcntrl", token := "iswcntrl", category := .identifier,
    description := paragraph [
      "Returns nonzero if the wide character is a control character",
      "(non-printing)."],
    sample := some <| lines [
      "#include <wctype.h>",
      "int r1 = iswcntrl(L'\\n'); // r1 != 0",
      "int r2 = iswcntrl(L'A');  // r2 == 0"] },
  { id := "id-iswctype", token := "iswctype", category := .identifier,
    description := paragraph [
      "Tests a wide character against a character class identified by a",
      "`wctype_t`\nvalue obtained from `wctype(\"class\")`.\n\nCommon",
      "classes include: \"alnum\", \"alpha\", \"blank\", \"cntrl\",",
      "\"digit\",\n\"graph\", \"lower\", \"print\", \"punct\", \"space\",",
      "\"upper\", \"xdigit\"."],
    sample := some <| lines [
      "#include <wctype.h>",
      "wctype_t digit_class = wctype(\"digit\");",
      "int r1 = iswctype(L'5', digit_class); // r1 != 0",
      "int r2 = iswctype(L'G', digit_class); // r2 == 0"] },
  { id := "id-iswdigit", token := "iswdigit", category := .identifier,
    description := paragraph [
      "Returns nonzero if the wide character is a decimal digit",
      "('0'..'9') in the\ncurrent locale."],
    sample := some <| lines [
      "#include <wctype.h>",
      "int r1 = iswdigit(L'3'); // r1 != 0",
      "int r2 = iswdigit(L'A'); // r2 == 0"] },
  { id := "id-iswgraph", token := "iswgraph", category := .identifier,
    description := paragraph [
      "Returns nonzero if the wide character is printable and not a",
      "space. Equivalent\nto `iswprint(wc) && !iswspace(wc)`."],
    sample := some <| lines [
      "#include <wctype.h>",
      "int r1 = iswgraph(L'!'); // r1 != 0",
      "int r2 = iswgraph(L' '); // r2 == 0"] },
  { id := "id-iswlower", token := "iswlower", category := .identifier,
    description := paragraph [
      "Returns nonzero if the wide character is a lowercase letter in the",
      "current\nlocale."],
    sample := some <| lines [
      "#include <wctype.h>",
      "int r1 = iswlower(L'a'); // r1 != 0",
      "int r2 = iswlower(L'A'); // r2 == 0"] },
  { id := "id-iswprint", token := "iswprint", category := .identifier,
    description := paragraph [
      "Returns nonzero if the wide character is printable, including the",
      "space\ncharacter. Control characters are not printable."],
    sample := some <| lines [
      "#include <wctype.h>",
      "int r1 = iswprint(L' ');  // r1 != 0",
      "int r2 = iswprint(L'\\n'); // r2 == 0"] },
  { id := "id-iswpunct", token := "iswpunct", category := .identifier,
    description :=
      "Returns nonzero if the wide character is a punctuation character.",
    sample := some <| lines [
      "#include <wctype.h>",
      "int r = iswpunct(L'!'); // r != 0"] },
  { id := "id-iswspace", token := "iswspace", category := .identifier,
    description := paragraph [
      "Returns nonzero if the wide character is whitespace (space, tab,",
      "newline,\nvertical tab, form feed, carriage return)."],
    sample := some <| lines [
      "#include <wctype.h>",
      "int r1 = iswspace(L'\\t'); // r1 != 0",
      "int r2 = iswspace(L'A');  // r2 == 0"] },
  { id := "id-iswupper", token := "iswupper", category := .identifier,
    description := paragraph [
      "Returns nonzero if the wide character is an uppercase letter in",
      "the current\nlocale."],
    sample := some <| lines [
      "#include <wctype.h>",
      "int r1 = iswupper(L'Z'); // r1 != 0",
      "int r2 = iswupper(L'z'); // r2 == 0"] },
  { id := "id-iswxdigit", token := "iswxdigit", category := .identifier,
    description := paragraph [
      "Returns nonzero if the wide character is a hexadecimal digit",
      "('0'..'9',\n'a'..'f', 'A'..'F')."],
    sample := some <| lines [
      "#include <wctype.h>",
      "int r1 = iswxdigit(L'B'); // r1 != 0",
      "int r2 = iswxdigit(L'G'); // r2 == 0"] },
  { id := "id-isxdigit", token := "isxdigit", category := .identifier,
    description := paragraph [
      "Returns nonzero if the character is a hexadecimal digit ('0'..'9',",
      "'a'..'f', 'A'..'F')."],
    sample := some <| lines [
      "#include <ctype.h>",
      "int r = isxdigit('B'); // r != 0"] }]

end CLexicon.Dictionary
